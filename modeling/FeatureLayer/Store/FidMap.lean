
namespace FeatureLayer

structure FidMap (α : Type) where
  entries : List (Int × α)
  sorted : entries.Pairwise fun a b => a.1 < b.1

namespace FidMap

variable {α : Type}

def empty : FidMap α := ⟨[], .nil⟩

instance : Inhabited (FidMap α) := ⟨empty⟩

def fids (m : FidMap α) : List Int := m.entries.map (·.1)

def values (m : FidMap α) : List α := m.entries.map (·.2)

def find? (m : FidMap α) (k : Int) : Option α := (m.entries.find? (·.1 = k)).map (·.2)

def contains (m : FidMap α) (k : Int) : Bool := m.entries.any (·.1 = k)

def lastFid? (m : FidMap α) : Option Int := m.fids.getLast?

def after (m : FidMap α) : Option Int → List (Int × α)
  | none => m.entries
  | some k => m.entries.filter (k < ·.1)

def insertEntry (k : Int) (a : α) : List (Int × α) → List (Int × α)
  | [] => [(k, a)]
  | e :: es =>
    if k < e.1 then (k, a) :: e :: es
    else if k = e.1 then (k, a) :: es
    else e :: insertEntry k a es

theorem mem_insertEntry {k : Int} {a : α} {x : Int × α} {es : List (Int × α)}
    (h : x ∈ insertEntry k a es) : x = (k, a) ∨ x ∈ es := by
  induction es with
  | nil => simpa [insertEntry] using h
  | cons e es ih =>
    simp only [insertEntry] at h
    split at h
    · simpa using h
    · split at h
      · rcases List.mem_cons.1 h with h | h
        · exact .inl h
        · exact .inr (List.mem_cons_of_mem _ h)
      · rcases List.mem_cons.1 h with h | h
        · exact .inr (h ▸ List.mem_cons_self)
        · exact (ih h).imp_right (List.mem_cons_of_mem _)

theorem sorted_insertEntry (k : Int) (a : α) {es : List (Int × α)}
    (h : es.Pairwise fun a b => a.1 < b.1) :
    (insertEntry k a es).Pairwise fun a b => a.1 < b.1 := by
  induction es with
  | nil => simp [insertEntry]
  | cons e es ih =>
    have ⟨he, hes⟩ := List.pairwise_cons.1 h
    simp only [insertEntry]
    split
    next hk =>
      refine List.pairwise_cons.2 ⟨fun x hx => ?_, h⟩
      rcases List.mem_cons.1 hx with rfl | hx
      · exact hk
      · exact Int.lt_trans hk (he x hx)
    next hk =>
      split
      next heq => exact List.pairwise_cons.2 ⟨fun x hx => by simpa [heq] using he x hx, hes⟩
      next hne =>
        refine List.pairwise_cons.2 ⟨fun x hx => ?_, ih hes⟩
        rcases mem_insertEntry hx with rfl | hx
        · show e.1 < k
          omega
        · exact he x hx

def insert (m : FidMap α) (k : Int) (a : α) : FidMap α :=
  ⟨insertEntry k a m.entries, sorted_insertEntry k a m.sorted⟩

def erase (m : FidMap α) (k : Int) : FidMap α :=
  ⟨m.entries.filter (·.1 ≠ k), m.sorted.filter _⟩

def filter (m : FidMap α) (p : α → Bool) : FidMap α :=
  ⟨m.entries.filter (p ·.2), m.sorted.filter _⟩

end FidMap

end FeatureLayer
