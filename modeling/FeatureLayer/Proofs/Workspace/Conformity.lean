import FeatureLayer.Proofs.Workspace.Sparing
import FeatureLayer.Proofs.Workspace.Typing
/-!
Stored records conform to the schema of their table, over every run of operations on layers in which
overlays meet fields of one kind under one name and give definitions only to tables without records.
-/

namespace FeatureLayer.Workspace

def layerView? (w : Workspace) (name : String) : Option View :=
  (w.layer? name).bind fun l => l.state.map (·.view)

/-- Whether what an operation stores conforms to the schemas: rows of layers do, records that are
given to a view as they are may not, and overlays do under conditions on the definitions. -/
def Conforms (w : Workspace) : Operation → Prop
  | .view _ r => r.stores = false
  | .overlay kind input method result o _ =>
    ∀ i ∈ w.layerView? input, ∀ m ∈ w.layerView? method, ∀ r ∈ w.layerView? result,
      r.writable = true → Overlay.Conforms kind o w.store i m r
  | .overlayViews kind input method result o =>
    ∀ i ∈ w.view? input, ∀ m ∈ w.view? method, ∀ r ∈ w.view? result,
      r.writable = true → Overlay.Conforms kind o w.store i m r
  | _ => True

instance decidableConforms (w : Workspace) : (op : Operation) → Decidable (w.Conforms op)
  | .view _ r => inferInstanceAs (Decidable (r.stores = false))
  | .overlay kind input method result o _ => inferInstanceAs (Decidable
    (∀ i ∈ w.layerView? input, ∀ m ∈ w.layerView? method, ∀ r ∈ w.layerView? result,
      r.writable = true → Overlay.Conforms kind o w.store i m r))
  | .overlayViews kind input method result o => inferInstanceAs (Decidable
    (∀ i ∈ w.view? input, ∀ m ∈ w.view? method, ∀ r ∈ w.view? result,
      r.writable = true → Overlay.Conforms kind o w.store i m r))
  | .create .. | .remove _ | .connect .. | .openLayer .. | .drop _ | .createLayer ..
  | .layerByName .. | .query .. | .release .. | .connection .. | .layer .. => isTrue trivial

def Conforming (f : Faults) (A : RegionAlgebra) : Workspace → List Operation → Prop
  | _, [] => True
  | w, op :: ops => w.Conforms op ∧ Conforming f A (w.step f A op) ops

instance decidableConforming (f : Faults) (A : RegionAlgebra) :
    (w : Workspace) → (ops : List Operation) → Decidable (w.Conforming f A ops)
  | _, [] => isTrue trivial
  | w, op :: ops =>
    have := decidableConforming f A (w.step f A op) ops
    inferInstanceAs (Decidable (w.Conforms op ∧ Conforming f A (w.step f A op) ops))

variable {f : Faults} {A : RegionAlgebra} {w w' : Workspace} {i : Nat} {op : Operation} {a : Answer}

theorem layerView?_eq_some {n : String} {l : Layer} {o : OpenLayer} (hl : w.layer? n = some l)
    (ho : l.state = some o) : w.layerView? n = some o.view := by
  rw [layerView?, hl, Option.bind_some, ho, Option.map_some]

theorem Tracks.fits (h : w.Tracks) {n : String} {l : Layer} (hl : w.layer? n = some l) :
    l.Fits w.store i := fun o ho hi => hi ▸ (h n l o hl ho).grows

theorem Effect.allTyped (he : Effect f A w op a w') (hc : op.control? = none) (hw : w.Sound)
    (ht : w.Tracks) (hop : w.Conforms op) (h : w.store.AllTyped) : w'.store.AllTyped := by
  have hstays (hb : ∀ i, ¬w.Bypasses i op) : w'.store.AllTyped :=
    h.works hw.store (he.works hc) fun i =>
      he.staysTyped hc hw (fun n l hl => ht.fits hl) (hb i)
  -- only overlays store what has not been encoded for the layer, or give a table definitions
  cases op with
  | overlay kind input method result o answer =>
    cases he with
    | refused => exact h
    | overlay hi hm hr hout =>
      subst hout
      show (Layer.overlay f A kind w.store _ _ _ o answer).store.AllTyped
      rcases Layer.overlay_store f A kind w.store _ _ _ o answer with
        hs | ⟨_, _, _, hio, hmo, hro, hs⟩
      · rw [hs]
        exact h
      · rw [hs]
        exact Overlay.allTyped_run h (hop _ (layerView?_eq_some hi hio) _ (layerView?_eq_some hm hmo)
          _ (layerView?_eq_some hr hro)) answer
  | overlayViews kind input method result o =>
    cases he with
    | refused => exact h
    | overlayViews hi hm hr hout =>
      subst hout
      exact Overlay.allTyped_run h (hop _ hi _ hm _ hr) _
  | view n r =>
    have hfalse : r.stores = false := hop
    exact hstays fun i hb => by cases hfalse.symm.trans hb.1
  | _ => exact hstays fun i => id

theorem allTyped_step (hw : w.Sound) (ht : w.Tracks) (hop : w.Conforms op) (h : w.store.AllTyped) :
    (w.step f A op).store.AllTyped := by
  rcases w.store_step_cases f A op with hs | ⟨a, hc, he⟩ | ⟨c, d, -, -, hturn⟩
  · rw [hs]
    exact h
  · exact he.allTyped hc hw ht hop h
  · exact h.turn hturn

theorem allTyped_run {ops : List Operation} (hw : w.Sound) (ht : w.Tracks)
    (hops : w.Conforming f A ops) (h : w.store.AllTyped) : (w.run f A ops).store.AllTyped := by
  induction ops generalizing w with
  | nil => exact h
  | cons op ops ih =>
    exact ih (hw.step op) (ht.step op) hops.2 (allTyped_step hw ht hops.1 h)

/-- The records of all tables have a place for each field of their table, and what is there is of the
kind of the field. -/
theorem records_conform (f : Faults) (A : RegionAlgebra) (ops : List Operation)
    (h : empty.Conforming f A ops) : ∀ i, ((empty.run f A ops).store.table i).Typed :=
  (allTyped_run sound_empty tracks_empty h Store.allTyped_empty).tables

def squares (textName : String) : List Operation :=
  let schema (name : String) (kind : FieldKind) : Schema :=
    ⟨[⟨name, kind, .none, 0, 0, true, false, none, false, none⟩],
      [⟨"", "Polygon", true, false, none⟩]⟩
  let table (n : String) (s : Schema) : List Operation :=
    [.createLayer "c" n s none, .openLayer "d" (.name n) ⟨.readWrite, .empty, none, none⟩ n]
  let row (name : String) (v : Value) : LayerRequest :=
    .create ⟨[(name, v), ("geometry", .geometry (.wkt "POLYGON((0 0,2 0,2 2,0 2,0 0))"))]⟩
  .create "d" (some "c") :: table "i" (schema "a" .integer) ++ table "m" (schema textName .text) ++
    table "r" .empty ++
    [.layer "i" (row "a" (.integer 1)), .layer "m" (row textName (.text "x"))]

theorem records_conform_of_intersection :
    let ops := squares "b" ++ [.overlay .intersection "i" "m" "r" (.ofList .empty) fun _ => true,
      .layer "r" (.create ⟨[("a", .integer 5), ("b", .text "y")]⟩)]
    let t := (empty.run .none .exact ops).store.table 2
    empty.Conforming .none .exact ops ∧
      t.records.values.map (·.data) = [[.integer 1, .text "x"], [.integer 5, .text "y"]] ∧
      t.Typed := by
  intro ops t
  have hops : empty.Conforming .none .exact ops := by decide +kernel
  exact ⟨hops, by decide +kernel, records_conform .none .exact ops hops 2⟩

/-- An overlay puts the text of one field into an integer field of the same name, and gives definitions
to a record that was stored without. -/
theorem overlays_break_conformity :
    (let ops := squares "a" ++ [.overlay .intersection "i" "m" "r" (.ofList .empty) fun _ => true]
      let t := (empty.run .none .exact ops).store.table 2
      t.schema.fields.map (·.kind) = [.integer] ∧ t.records.values.map (·.data) = [[.text "x"]] ∧
        ¬t.Typed) ∧
      let ops := squares "b" ++ [.layer "r" (.create ⟨[]⟩),
        .overlay .clip "i" "m" "r" (.ofList .empty) fun _ => true]
      let t := (empty.run .none .exact ops).store.table 2
      t.schema.fields.map (·.kind) = [.integer] ∧
        t.records.values.map (·.data) = [[], [.integer 1]] ∧ ¬t.Typed := by
  refine ⟨⟨?_, ?_, FeatureTable.not_typed ?_⟩, ?_, ?_, FeatureTable.not_typed ?_⟩
  all_goals decide +kernel

end FeatureLayer.Workspace
