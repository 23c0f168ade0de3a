import FeatureLayer.Layer.Request
import FeatureLayer.Store.Request
/-!
Workspaces: a store, with the connections, views and layers that are held on it under names. A name
stands for one of each at most.
-/

namespace FeatureLayer

structure Workspace where
  store : Store
  connections : List (String × Connection)
  views : List (String × View)
  layers : List (String × Layer)

inductive Operation where
  | create (source : String) (connection : Option String)
  | remove (source : String)
  | connect (source : String) (access : Access) (connection : String)
  | openLayer (source : String) (contents : LayerSource) (options : OpenOptions) (layer : String)
  /-- Lets go of all that the name stands for. -/
  | drop (name : String)
  | createLayer (connection name : String) (schema : Schema) (view : Option String)
  | layerByName (connection name view : String)
  | query (connection text : String) (spatial : Option Geometry) (dialect : Option String)
    (view : String)
  /-- Gives back the result set of a view. -/
  | release (connection view : String)
  | connection (name : String) (r : ConnectionRequest)
  | view (name : String) (r : ViewRequest)
  | layer (name : String) (r : LayerRequest)
  /-- Overlays two layers into a third; the answers say after each step whether to go on. -/
  | overlay (kind : OverlayKind) (input method result : String) (o : Overlay.Options)
    (answer : Nat → Bool)
  | overlayViews (kind : OverlayKind) (input method result : String) (o : Overlay.Options)

namespace Workspace

def empty : Workspace := ⟨.empty, [], [], []⟩

instance : Inhabited Workspace := ⟨empty⟩

def lookup {α : Type} (held : List (String × α)) (name : String) : Option α :=
  (held.find? (·.1 = name)).map (·.2)

def hold {α : Type} (held : List (String × α)) (name : String) (a : α) : List (String × α) :=
  (name, a) :: held.filter (·.1 ≠ name)

def letGo {α : Type} (held : List (String × α)) (name : String) : List (String × α) :=
  held.filter (·.1 ≠ name)

variable (w : Workspace)

def connection? (name : String) : Option Connection := lookup w.connections name

def view? (name : String) : Option View := lookup w.views name

def layer? (name : String) : Option Layer := lookup w.layers name

def holdConnection (name : String) (c : Connection) : Workspace :=
  { w with connections := hold w.connections name c }

def holdView (name : String) (v : View) : Workspace := { w with views := hold w.views name v }

def holdLayer (name : String) (l : Layer) : Workspace := { w with layers := hold w.layers name l }

def closeLayer (name : String) : Workspace :=
  match w.layer? name with
  | some l => { w with store := (l.close w.store).2, layers := letGo w.layers name }
  | none => w

/-- The holds on a data source: one for each connection and each view, two for each open layer. -/
def holdCount (source : String) : Nat :=
  match w.store.find? source with
  | none => 0
  | some i =>
    (w.connections.filter (·.2.source = i)).length + (w.views.filter (·.2.source = i)).length +
      2 * (w.layers.filter fun l => l.2.state.any (·.connection.source = i)).length

def resultSetCount (source : String) : Nat :=
  match w.store.find? source with
  | none => 0
  | some i => (w.store.source i).resultSets

structure Answer where
  value : Except Error Reply
  warnings : List Warning
  /-- The fractions that an overlay told. -/
  progress : List Double

def Answer.plain (value : Except Error Reply) : Answer := ⟨value, [], []⟩

def Answer.done : Answer := .plain (.ok .done)

variable (f : Faults) (A : RegionAlgebra)

def performQuery (connection text : String) (spatial : Option Geometry) (dialect : Option String)
    (view : String) : Option (Answer × Workspace) :=
  (w.connection? connection).map fun c =>
    let (e, c, s) := w.store.query c text spatial dialect
    let w := { w with store := s }.holdConnection connection c
    match e with
    | .ok v => (.done, w.holdView view v)
    | .error e => (.plain (.error e), w)

def performOverlay (kind : OverlayKind) (input method result : String) (o : Overlay.Options)
    (answer : Nat → Bool) : Option (Answer × Workspace) := do
  if input = method || input = result || method = result then none
  let out := Layer.overlay f A kind w.store (← w.layer? input) (← w.layer? method)
    (← w.layer? result) o answer
  let w := { w with store := out.store }
  some (⟨out.value.map fun _ => .done, out.warnings, out.progress⟩,
    ((w.holdLayer input out.input).holdLayer method out.method).holdLayer result out.result)

def performOverlayViews (kind : OverlayKind) (input method result : String) (o : Overlay.Options) :
    Option (Answer × Workspace) := do
  if input = method || input = result || method = result then none
  let out := Overlay.run A kind w.store (← w.view? input) (← w.view? method) (← w.view? result) o
    fun _ => true
  let w := { w with store := out.store }
  some (.plain (out.value.map fun _ => .done),
    (w.holdView input out.input).holdView result out.result)

/-- What comes of an operation that does not stop the program; nothing if it names what is not held.
What was held under a name goes when something new takes it. -/
def perform : Operation → Option (Answer × Workspace)
  | .create source connection =>
    match w.store.create source with
    | .error e => some (.plain (.error e), w)
    | .ok (c, store) =>
      let w := { w with store }
      some (.done, (connection.map fun n => w.holdConnection n c).getD w)
  | .remove source =>
    let (b, store) := w.store.remove source
    some (.plain (.ok (.flag b)), { w with store })
  | .connect source access connection =>
    match w.store.connect source access with
    | .error e => some (.plain (.error e), w)
    | .ok c => some (.done, w.holdConnection connection c)
  | .openLayer source contents options layer =>
    let (e, ws, store) := Layer.openOn f w.store source contents options
    let w := { w with store }
    match e with
    | .error e => some (⟨.error e, ws, []⟩, w)
    | .ok l => some (⟨.ok .done, ws, []⟩, (w.closeLayer layer).holdLayer layer l)
  | .drop name =>
    let held := (w.connection? name).isSome || (w.view? name).isSome || (w.layer? name).isSome
    let w := w.closeLayer name
    some (.plain (.ok (.flag held)),
      { w with connections := letGo w.connections name, views := letGo w.views name })
  | .createLayer connection name schema view =>
    (w.connection? connection).map fun c =>
      match w.store.createLayer c name schema with
      | .error e => (.plain (.error e), w)
      | .ok (v, store) =>
        let w := { w with store }
        (.done, (view.map fun n => w.holdView n v).getD w)
  | .layerByName connection name view =>
    (w.connection? connection).map fun c =>
      match w.store.layerByName c name with
      | .error e => (.plain (.error e), w)
      | .ok v => (.done, w.holdView view v)
  | .query connection text spatial dialect view =>
    w.performQuery connection text spatial dialect view
  | .release connection view => do
    let c ← w.connection? connection
    let _ ← w.view? view
    some (.done, { w with store := w.store.release c, views := letGo w.views view })
  | .connection name r =>
    (w.connection? name).map fun c =>
      let (e, c, store) := w.store.askConnection c r
      (.plain e, { w with store }.holdConnection name c)
  | .view name r =>
    (w.view? name).map fun v =>
      let (e, v, store) := w.store.askView v r
      (.plain e, { w with store }.holdView name v)
  | .layer name r =>
    (w.layer? name).map fun l =>
      let out := l.ask f w.store r
      (⟨out.value, out.warnings, []⟩, { w with store := out.store }.holdLayer name out.layer)
  | .overlay kind input method result o answer =>
    w.performOverlay f A kind input method result o answer
  | .overlayViews kind input method result o => w.performOverlayViews A kind input method result o

/-- Only what layers decode can stop the program. -/
def check : Operation → Except Panic Unit
  | .layer name r =>
    match w.layer? name with
    | none => .ok ()
    | some l => l.check f w.store r
  | _ => .ok ()

/-- What comes of an operation. -/
def attempt (op : Operation) : Except Panic (Option (Answer × Workspace)) :=
  (w.check f op).map fun _ => w.perform f A op

def addRecords (view : String) : Workspace → List Record → Except Error Workspace
  | w, [] => .ok w
  | w, r :: rest =>
    match w.perform f A (.view view (.create r)) with
    | some (⟨.error e, _, _⟩, _) => .error e
    | some (⟨.ok _, _, _⟩, w) => addRecords view w rest
    | none => .ok w

/-- The workspace after an operation that does not stop the program; one that names what is not held
changes nothing. -/
def step (op : Operation) : Workspace := ((w.perform f A op).map (·.2)).getD w

def run (ops : List Operation) : Workspace := ops.foldl (fun w op => w.step f A op) w

/-- The workspace after operations, if none of them stops the program. -/
def execute (ops : List Operation) : Except Panic Workspace :=
  ops.foldlM (fun w op => (w.attempt f A op).map fun out => (out.map (·.2)).getD w) w

def ofRecords (source layer : String) (schema : Schema) (records : List Record) :
    Except Error Workspace :=
  addRecords f A layer
    (empty.run f A [.create source (some source), .createLayer source layer schema (some layer)])
    records

end Workspace

end FeatureLayer
