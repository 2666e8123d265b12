import TraceGraph.Proofs.Posts
import TraceGraph.Proofs.Sequence

/-! Installing a meta-model through the interface. Whatever object is posted as capabilities, either the
meta-model that it declares is installed and all trace data kept, or nothing changes. The sender is told
of every mistake but one: an infinite number where an integer is read. -/

namespace TraceGraph

namespace Capabilities

open Sequence

/-- Whether a mistake is one that requests are refused for. -/
def Error.Foreseen : Error → Prop
  | .infinite | .notAnObject _ => False
  | _ => True

/-- Where integers are read: the list of definitions and the member of each definition. -/
def integerPlaces : List (String × String) :=
  [("activities", "id"), ("passiveEntities", "id"), ("dynamicScopes", "id"), ("sendOps", "marker"),
    ("sendOps", "target"), ("receiveOps", "marker"), ("receiveOps", "source")]

/-- An infinite number stands where an integer is read. -/
def HasInfinite (capabilities : Json) : Prop :=
  ∃ place ∈ integerPlaces, ∃ ds, definitions capabilities place.1 = .ok ds ∧
    ∃ d ∈ ds, ∃ negative, d.member? place.2 = some (.float (.infinite negative))

theorem integer_eq_error {v : Json} {e : Error} (h : integer v = .error e) :
    e.Foreseen ∨ e = .infinite ∧ ∃ negative, v = .float (.infinite negative) := by
  have hmap {x : Except Numeral.IntegerError Int} (hx : x.mapError .integer = .error e) : e.Foreseen := by
    cases x with
    | ok n => cases hx
    | error e' =>
      obtain rfl := Except.error.inj hx
      trivial
  cases v with
  | int n => cases h
  | bool b => cases h
  | text s => exact .inl (hmap h)
  | illFormed t => exact .inl (hmap h)
  | float x =>
    cases x with
    | nan =>
      obtain rfl := Except.error.inj h
      exact .inl trivial
    | infinite negative =>
      obtain rfl := Except.error.inj h
      exact .inr ⟨rfl, negative, rfl⟩
    | finite negative exponent fraction => cases h
  | null | list | object =>
    obtain rfl := Except.error.inj h
    exact .inl trivial

theorem field_eq_error {key : String} {v : Json} {e : Error} (h : field key v = .error e) : e.Foreseen := by
  unfold field at h
  split at h
  · split at h
    · cases h
    · obtain rfl := Except.error.inj h
      trivial
  all_goals
    obtain rfl := Except.error.inj h
    trivial

theorem member?_of_field {key : String} {v w : Json} (h : field key v = .ok w) : v.member? key = some w := by
  unfold field at h
  split at h
  · split at h
    · next u hu => rw [hu, Except.ok.inj h]
    · cases h
  all_goals cases h

theorem integerField_eq_error {key : String} {v : Json} {e : Error} (h : integerField key v = .error e) :
    e.Foreseen ∨ e = .infinite ∧ ∃ negative, v.member? key = some (.float (.infinite negative)) := by
  rcases bind_eq_error h with h | ⟨w, hw, h⟩
  · exact .inl (field_eq_error h)
  · rcases integer_eq_error h with h | ⟨rfl, negative, rfl⟩
    · exact .inl h
    · exact .inr ⟨rfl, negative, member?_of_field hw⟩

theorem definitions_eq_error {capabilities : Json} {key : String} {e : Error}
    (h : definitions capabilities key = .error e) : e.Foreseen := by
  unfold definitions at h
  split at h
  · next v _ =>
    cases v with
    | list | text | illFormed | object => cases h
    | null | bool | int | float =>
      obtain rfl := Except.error.inj h
      trivial
  · cases h

theorem declaredKinds_eq_error {capabilities : Json} {e : Error}
    (h : declaredKinds capabilities = .error e) : e.Foreseen ∨ e = .infinite ∧ HasInfinite capabilities := by
  obtain ⟨list, hlist, kinds, h⟩ := foldlM_eq_error h
  rcases bind_eq_error h with h | ⟨ds, hds, h⟩
  · exact .inl (definitions_eq_error h)
  · obtain ⟨d, hd, kinds', h⟩ := foldlM_eq_error h
    rcases bind_eq_error h with h | ⟨n, -, h⟩
    · rcases integerField_eq_error h with h | ⟨rfl, negative, hmember⟩
      · exact .inl h
      · have hplaces : ∀ l ∈ kindLists, (l.1, "id") ∈ integerPlaces := by decide
        exact .inr ⟨rfl, _, hplaces list hlist, ds, hds, d, hd, negative, hmember⟩
    · cases h

theorem operations_eq_error {capabilities : Json} {key counterpart : String} {e : Error}
    (hmarker : (key, "marker") ∈ integerPlaces) (hcounterpart : (key, counterpart) ∈ integerPlaces)
    (h : operations capabilities key counterpart = .error e) :
    e.Foreseen ∨ e = .infinite ∧ HasInfinite capabilities := by
  rcases bind_eq_error h with h | ⟨ds, hds, h⟩
  · exact .inl (definitions_eq_error h)
  · obtain ⟨d, hd, h⟩ := mapM_eq_error h
    rcases bind_eq_error h with h | ⟨n, -, h⟩
    · rcases integerField_eq_error h with h | ⟨rfl, negative, hmember⟩
      · exact .inl h
      · exact .inr ⟨rfl, _, hmarker, ds, hds, d, hd, negative, hmember⟩
    · rcases bind_eq_error h with h | ⟨n', -, h⟩
      · rcases integerField_eq_error h with h | ⟨rfl, negative, hmember⟩
        · exact .inl h
        · exact .inr ⟨rfl, _, hcounterpart, ds, hds, d, hd, negative, hmember⟩
      · cases h

/-- Reading an object of capabilities fails by a mistake that requests are refused for, or at an infinite
number where an integer is read. -/
theorem metaModel_eq_error {ms : List (String × Json)} {e : Error} (h : metaModel (.object ms) = .error e) :
    e.Foreseen ∨ e = .infinite ∧ HasInfinite (.object ms) := by
  rcases bind_eq_error h with h | ⟨kinds, -, h⟩
  · exact declaredKinds_eq_error h
  · rcases bind_eq_error h with h | ⟨sends, -, h⟩
    · exact operations_eq_error (by decide) (by decide) h
    · rcases bind_eq_error h with h | ⟨receives, -, h⟩
      · exact operations_eq_error (by decide) (by decide) h
      · cases hm : MetaModel.ofDefinitions kinds sends receives with
        | ok m =>
          rw [hm] at h
          cases h
        | error e' =>
          rw [hm] at h
          obtain rfl := Except.error.inj h
          exact .inl trivial

end Capabilities

namespace Service

open Capabilities

theorem installCapabilities_of_foreseen (s : Session) {v : Json} {e : Error}
    (h : metaModel v = .error e) (he : e.Foreseen) :
    installCapabilities s v = (s, Response.refusal 422 s!"Invalid capabilities: {e.message}") := by
  rw [installCapabilities, h]
  cases e with
  | infinite | notAnObject => exact he.elim
  | _ => rfl

/-- The session with a meta-model installed: a view that exists keeps all its trace data. -/
def withMetaModel (s : Service) (m : MetaModel) : Service :=
  { s with session := { s.session with
      view := some ((s.session.view.map (·.setMetaModel (some m))).getD (View.new (some m))) } }

/-- An object posted as capabilities is answered 200, and then the meta-model that it declares is
installed; or it is refused with 422, and then nothing changes. The one exception is an object that fails
at an infinite number where an integer is read: that is answered 500, and nothing changes either. -/
theorem capabilities_installed_or_refused (s : Service) (ms : List (String × Json))
    (headers : List (String × String)) :
    let r := s.handle (.post "/api/meta-model" (some (.object ms)) headers)
    match metaModel (.object ms) with
    | .ok m => r.1 = s.withMetaModel m ∧ r.2.status = 200 ∧
        r.2.content = .json (.object [("status", .text "ok")])
    | .error e => r.1 = s ∧
        (e.Foreseen ∧ r.2.status = 422 ∧
            r.2.content = .json (.object [("detail", .text s!"Invalid capabilities: {e.message}")]) ∨
          e = .infinite ∧ HasInfinite (.object ms) ∧ r.2.status = 500 ∧
            r.2.content = .text "Internal Server Error") := by
  have hpath : ("/api/meta-model", Route.metaModel) ∈ postPaths := by decide
  obtain ⟨added, hhandle⟩ := s.handle_post hpath (some (.object ms)) headers
  intro r
  have hserved : s.serveRoute .metaModel (some (.object ms)) =
      ({ s with session := (installCapabilities s.session (.object ms)).1 },
        (installCapabilities s.session (.object ms)).2) := rfl
  have hr : r = _ := hhandle
  rw [hserved] at hr
  cases hm : metaModel (.object ms) with
  | ok m =>
    rw [installCapabilities, hm] at hr
    rw [hr]
    refine ⟨?_, rfl, rfl⟩
    unfold withMetaModel Session.install
    cases s.session.view <;> rfl
  | error e =>
    rcases metaModel_eq_error hm with he | ⟨rfl, hinfinite⟩
    · rw [installCapabilities_of_foreseen s.session hm he] at hr
      rw [hr]
      exact ⟨rfl, .inl ⟨he, rfl, rfl⟩⟩
    · rw [installCapabilities, hm] at hr
      rw [hr]
      exact ⟨rfl, .inr ⟨rfl, hinfinite, rfl, rfl⟩⟩

/-- An infinite number as an id is neither taken in nor refused. -/
theorem infinite_id_fails :
    let s := Service.new (Session.new none) none
    let r := s.handle (.post "/api/meta-model"
      (some (.object [("activities", .list [.object [("id", .float (.infinite false))]])])) [])
    r.2.status = 500 ∧ ¬ (r.2.status = 200 ∨ r.2.status = 422) := by
  decide +kernel

end Service

end TraceGraph
