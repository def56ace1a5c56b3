import UiMarkup.Loader
import UiMarkup.Proofs.Build.Calls

namespace UiMarkup.Loader

-- The instances that creating a screen starts, each by the nesting of what asks for it.
def screenStarts (l : Loader) (scene : Scene) (name : String) : List Nat :=
  match l.registry.componentScope? name with
  | none       => []
  | some scope =>
    Build.starts l.setup l.setup.config.maxDepth 0 (l.begin scene (.begin .globals none)) scope []

theorem screenStarts_eq_map_calls {l : Loader} {name : String} {scope : ScopeId}
    (h : l.registry.componentScope? name = some scope) (scene : Scene) :
    l.screenStarts scene name =
      (Build.calls l.setup l.setup.config.maxDepth (l.begin scene (.begin .globals none)) scope
        []).map fun c => l.setup.config.maxDepth - c.levels := by
  rw [screenStarts, h]
  dsimp only
  rw [Build.starts_eq_map_calls, Nat.zero_add]

theorem scene_createScreen {l : Loader} {scene : Scene} {name : String} {scope : ScopeId}
    (h : l.registry.componentScope? name = some scope) :
    (l.createScreen scene name).scene =
      (Build.instance? l.setup (l.begin scene (.begin .globals none)) scope []).2.scene := by
  unfold createScreen
  rw [h]
  dsimp only
  split
  case h_1 he => rw [he]; rfl
  case h_2 he => rw [he]; rfl

theorem createScreen_bounded {l : Loader} {k : Nat}
    (h : ∀ id c, l.registry.component? id = some c → Build.openings c.view ≤ k) (scene : Scene)
    (name : String) :
    let starts := l.screenStarts scene name
    (∀ nesting ∈ starts, nesting < l.setup.config.maxDepth) ∧
    starts.length ≤ Build.treeSize k l.setup.config.maxDepth ∧
    (l.createScreen scene name).scene.size ≤ scene.size + 2 * k * starts.length := by
  unfold screenStarts
  split
  case h_1 hname =>
    refine ⟨nofun, Nat.zero_le _, ?_⟩
    rw [createScreen, hname]
    exact Nat.le_refl _
  case h_2 scope hname =>
    have hbounded : (l.begin scene (.begin .globals none)).Bounded k := h
    refine ⟨fun nesting hn => ?nesting, Build.length_starts_le hbounded .., ?size⟩
    case nesting => simpa using Build.nesting_of_mem_starts hn
    case size =>
      rw [scene_createScreen hname]
      exact Build.size_instantiate_le hbounded ..

theorem screen_of_itself :
    let view : List Event := [.opening "view" [],
      .opening "twins" [], .closing "twins", .opening "twins" [], .closing "twins", .closing "view"]
    let l : Loader := {
      registry.scopes :=
        #[{ name := "globals" }, { name := "twins", component := some ⟨"obj", view⟩ }]
      setup.config := { maxDepth := 3 } }
    l.screenStarts .empty "twins" = [0, 1, 2, 2, 1, 2, 2] ∧
      (l.createScreen .empty "twins").scene.size ≤ 2 * 3 * 7 := by
  intro view l
  have hviews : ∀ id c, l.registry.component? id = some c → Build.openings c.view ≤ 3 := by
    intro id c hc
    match id with
    | ⟨0⟩     => cases hc
    | ⟨1⟩     => cases hc; decide
    | ⟨_ + 2⟩ => cases hc
  have hstarts : l.screenStarts .empty "twins" = [0, 1, 2, 2, 1, 2, 2] := by decide +kernel
  have ⟨_, _, hsize⟩ := createScreen_bounded hviews .empty "twins"
  rw [hstarts, show Scene.empty.size = 0 from rfl, Nat.zero_add] at hsize
  exact ⟨hstarts, hsize⟩

end UiMarkup.Loader
