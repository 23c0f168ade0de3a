import FeatureLayer.Layer.Opening

namespace FeatureLayer.Layer

structure OverlayOutcome where
  value : Except Error Unit
  warnings : List Warning
  progress : List Double
  input : Layer
  method : Layer
  result : Layer
  store : Store

/-- Overlays two layers into a third. All three start reading anew; the schema of the result is read
again if the overlay succeeds. -/
def overlay (f : Faults) (A : RegionAlgebra) (kind : OverlayKind) (s : Store)
    (input method result : Layer) (o : Overlay.Options) (answer : Nat → Bool) : OverlayOutcome :=
  match input.state, method.state, result.state with
  | some i, some m, some r =>
    let out := f.runOverlay s A kind i.view m.view r.view o answer
    let input := input.withState { i with view := out.input.rewind, scan := .idle }
    let method := method.withState { m with view := m.view.rewind, scan := .idle }
    let result := result.withState { r with view := out.result.rewind, scan := .idle }
    match out.value with
    | .ok () =>
      let (result, ws) := result.refreshSchema f out.store
      ⟨.ok (), ws, out.progress, input, method, result, out.store⟩
    | .error e =>
      let reason := match e with
        | .refused reason _ _ => reason
        | _ => .failure
      let said := f.lastErrorOf out.input
      let detail := if said.isEmpty then e.detail else said
      ⟨.error (.refused reason kind.method detail), [], out.progress, input, method, result, out.store⟩
  | _, _, _ => ⟨.error .layerClosed, [], [], input, method, result, s⟩

end FeatureLayer.Layer
