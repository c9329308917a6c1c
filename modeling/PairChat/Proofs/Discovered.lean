import PairChat.Discovery
import PairChat.Proofs.KeptSources

/-!
# Discovery: what is found if no provider is named

A search only looks at the host.  What it finds comes from the variables, from the
default source or from a local store nearby, and from each of them only where those before it say
nothing (`Finds`, `finds_of_find`).

* `isRemote_of_find_local`: a search for a local store finds no homeserver.
* `isRemote_find_iff`: where the variables name no provider, a homeserver is found exactly where the
  default source is one.
-/

namespace PairChat

open PairChat.Action
open Files (Path)

variable {ν : Type} {h h' : Host ν} {f : Finding} {p : Option Path} {file : Path} {s : Source}
  {requireLocal : Bool}

/-! ### Looking -/

namespace Discovery

theorem isRead_repositoryRoot (p : Path) :
    (repositoryRoot p : Action (Host ν) (Option Path)).IsRead :=
  isRead_getState.bind fun _ => (Host.isRead_resolved _).bind fun _ => isRead_lift _

theorem isRead_start (p : Option Path) : (start p : Action (Host ν) Path).IsRead := by
  cases p
  · exact Host.isRead_ask _
  · exact Host.isRead_resolved _

theorem isRead_localDirectory (p : Option Path) :
    (localDirectory p : Action (Host ν) (Option Path)).IsRead := by
  refine (isRead_start p).bind fun here => (Host.isRead_isDirectory _).bind fun near => ?_
  cases near
  · refine (isRead_repositoryRoot _).bind fun root => ?_
    cases root
    · exact isRead_pure _
    · exact (Host.isRead_isDirectory _).bind fun _ => isRead_pure _
  · exact isRead_pure _

theorem isRead_fromDirectory (p : Option Path) :
    (fromDirectory p : Action (Host ν) (Option Finding)).IsRead := by
  refine (isRead_localDirectory p).bind fun near => ?_
  cases near
  · exact isRead_pure _
  · exact (Host.isRead_ask _).bind fun _ => isRead_pure _

theorem isRead_fromSources : (fromSources : Action (Host ν) (Option Finding)).IsRead := by
  refine Sources.isRead_exist.bind fun found => ?_
  cases found
  · exact isRead_pure _
  · refine Sources.isRead_load.bind fun ss => ?_
    cases ss.default?
    · exact isRead_pure _
    · exact Sources.isRead_file.bind fun _ => (isRead_lift _).bind fun _ => isRead_pure _

theorem isRead_fromVariables (requireLocal : Bool) :
    (fromVariables requireLocal : Action (Host ν) (Option Finding)).IsRead := by
  refine (Host.isRead_ask _).bind fun path => (Host.isRead_ask _).bind fun url => ?_
  dsimp only
  split_ifs
  · refine (Host.isRead_isDirectory _).bind fun found => ?_
    cases found
    · exact isRead_throw _
    · exact (Host.isRead_ask _).bind fun _ => isRead_pure _
  · exact (Host.isRead_ask _).bind fun _ => isRead_pure _
  · exact isRead_pure _

/-! ### What is found -/

/-- **What a search finds, and where.** -/
inductive Finds (p : Option Path) (requireLocal : Bool) (h : Host ν) : Finding → Prop
  | environment {f : Finding} (hv : (fromVariables requireLocal).outcome h = (.ok (some f), h)) :
    Finds p requireLocal h f
  | source {f : Finding} (hlocal : requireLocal = false)
    (hv : (fromVariables requireLocal).outcome h = (.ok none, h))
    (hs : fromSources.outcome h = (.ok (some f), h)) : Finds p requireLocal h f
  | directory {f : Finding} (hv : (fromVariables requireLocal).outcome h = (.ok none, h))
    (hs : requireLocal = false → fromSources.outcome h = (.ok none, h))
    (hd : (fromDirectory p).outcome h = (.ok (some f), h)) : Finds p requireLocal h f

/-- The last place to look. -/
theorem fromDirectory_of_search {e : Failure}
    (ho : (do if let some f ← fromDirectory p then return f
              throw e : Action (Host ν) Finding).outcome h = (.ok f, h')) :
    (fromDirectory p).outcome h = (.ok (some f), h) ∧ h' = h := by
  obtain ⟨near, hd, hnear⟩ := (isRead_fromDirectory p).exists_of_outcome_bind ho
  rcases near with _ | g
  · cases hnear
  · obtain ⟨hg, rfl⟩ := Prod.mk.inj hnear
    obtain rfl := Except.ok.inj hg
    exact ⟨hd, rfl⟩

theorem finds_of_find (ho : (find p requireLocal).outcome h = (.ok f, h')) :
    Finds p requireLocal h f ∧ h' = h := by
  obtain ⟨named, hv, hnamed⟩ := (isRead_fromVariables requireLocal).exists_of_outcome_bind ho
  rcases named with _ | g
  · cases requireLocal
    · obtain ⟨source, hs, hsource⟩ := isRead_fromSources.exists_of_outcome_bind hnamed
      rcases source with _ | g
      · obtain ⟨hd, rfl⟩ := fromDirectory_of_search hsource
        exact ⟨.directory hv (fun _ => hs) hd, rfl⟩
      · obtain ⟨hg, rfl⟩ := Prod.mk.inj hsource
        obtain rfl := Except.ok.inj hg
        exact ⟨.source rfl hv hs, rfl⟩
    · obtain ⟨hd, rfl⟩ := fromDirectory_of_search hnamed
      exact ⟨.directory hv nofun hd, rfl⟩
  · obtain ⟨hg, rfl⟩ := Prod.mk.inj hnamed
    obtain rfl := Except.ok.inj hg
    exact ⟨.environment hv, rfl⟩

/-! ### Homeservers that are found -/

theorem isNamed_iff (env : Environment) (name : String) :
    ((env.value? name).getD "" != "") = (env.nonempty? name).isSome := by
  unfold Environment.nonempty?
  rcases env.value? name with _ | v
  · rfl
  · by_cases hv : v = "" <;> simp [hv, Option.filter]

/-- The variables name a store, or a homeserver where one is looked for and no store is named. -/
theorem fromVariables_some (hv : (fromVariables requireLocal).outcome h = (.ok (some f), h')) :
    (f.isRemote = false ∧ (h.environment.nonempty? Environment.storePath).isSome) ∨
      (f.isRemote = true ∧ requireLocal = false ∧
        h.environment.nonempty? Environment.storePath = none ∧
        (h.environment.nonempty? Environment.serverUrl).isSome) := by
  simp only [fromVariables, outcome_bind_ok (Host.outcome_setting? _), isNamed_iff] at hv
  split_ifs at hv with hpath hurl
  · obtain ⟨found, h₃, hd, hv⟩ := exists_of_outcome_bind hv
    cases found
    · cases hv
    · obtain ⟨user, h₄, -, hv⟩ := exists_of_outcome_bind hv
      obtain rfl := Option.some.inj (Except.ok.inj (Prod.mk.inj hv).1)
      exact Or.inl ⟨rfl, hpath⟩
  · obtain ⟨token, h₃, -, hv⟩ := exists_of_outcome_bind hv
    obtain rfl := Option.some.inj (Except.ok.inj (Prod.mk.inj hv).1)
    obtain ⟨hurl, hlocal⟩ := Bool.and_eq_true_iff.mp hurl
    have hpath' := Option.not_isSome_iff_eq_none.mp hpath
    exact Or.inr ⟨rfl, by simpa using hlocal, hpath', hurl⟩
  · cases hv

/-- What the default source says about where it is. -/
theorem ofSource_eq_ok (hs : ofSource file s = .ok f) : f.isRemote = s.isRemote ∧
    (s.isRemote → f.url = s.url ∧ f.token = s.token) := by
  unfold ofSource at hs
  dsimp only at hs
  split_ifs at hs with hremote
  · obtain ⟨name, -, hs⟩ := exists_of_bind_eq_ok hs
    obtain rfl := Except.ok.inj hs
    exact ⟨hremote.symm, fun _ => ⟨rfl, rfl⟩⟩
  all_goals
    rw [Bool.not_eq_true] at hremote
    refine ⟨?_, fun h => absurd h (by simp [hremote])⟩
    rw [hremote]
  · obtain ⟨name, -, hs⟩ := exists_of_bind_eq_ok (x := s.name.quotedText) hs
    obtain rfl := Except.ok.inj hs
    rfl
  · split at hs
    · obtain ⟨name, -, hs⟩ := exists_of_bind_eq_ok (x := s.name.quotedText) hs
      obtain rfl := Except.ok.inj hs
      rfl
    · cases hs

theorem fromSources_some (hs : fromSources.outcome h = (.ok (some f), h')) : ∃ ss s,
    Sources.load.outcome h = (.ok ss, h) ∧ ss.default? = some s ∧ f.isRemote = s.isRemote ∧
      (s.isRemote → f.url = s.url ∧ f.token = s.token) := by
  obtain ⟨found, -, hfound⟩ := Sources.isRead_exist.exists_of_outcome_bind hs
  cases found
  · cases hfound
  · obtain ⟨ss, hl, hdefault⟩ := Sources.isRead_load.exists_of_outcome_bind hfound
    rcases hd : ss.default? with _ | s <;> rw [hd] at hdefault
    · cases hdefault
    · obtain ⟨file, -, hfile⟩ := Sources.isRead_file.exists_of_outcome_bind hdefault
      obtain ⟨g, hg, hfound⟩ := (isRead_lift _).exists_of_outcome_bind hfile
      obtain rfl := Option.some.inj (Except.ok.inj (Prod.mk.inj hfound).1)
      obtain ⟨hremote, hplace⟩ := ofSource_eq_ok (Prod.mk.inj hg).1
      exact ⟨ss, s, hl, hd, hremote, hplace⟩

/-- Nothing is found among the sources where no default source is set and exists. -/
theorem fromSources_none (hs : fromSources.outcome h = (.ok none, h')) {ss : Sources}
    (hl : Sources.load.outcome h = (.ok ss, h)) : ss.default? = none := by
  obtain ⟨found, he, hfound⟩ := Sources.isRead_exist.exists_of_outcome_bind hs
  cases found
  · cases hl.symm.trans (Sources.outcome_load_of_exist he)
    rfl
  · obtain ⟨ss', hl', hdefault⟩ := Sources.isRead_load.exists_of_outcome_bind hfound
    obtain rfl := Except.ok.inj (Prod.mk.inj (hl'.symm.trans hl)).1
    rcases hd : ss'.default? with _ | s
    · rfl
    · rw [hd] at hdefault
      obtain ⟨file, -, hfile⟩ := Sources.isRead_file.exists_of_outcome_bind hdefault
      obtain ⟨g, -, hfound⟩ := (isRead_lift _).exists_of_outcome_bind hfile
      cases hfound

theorem fromDirectory_some (hd : (fromDirectory p).outcome h = (.ok (some f), h')) :
    f.isRemote = false := by
  obtain ⟨near, -, hnear⟩ := (isRead_localDirectory p).exists_of_outcome_bind hd
  rcases near with _ | path
  · cases hnear
  · obtain ⟨user, -, hfound⟩ := (Host.isRead_ask _).exists_of_outcome_bind hnear
    obtain rfl := Option.some.inj (Except.ok.inj (Prod.mk.inj hfound).1)
    rfl

/-- **A search for a local store finds no homeserver.** -/
theorem isRemote_of_find_local (ho : (find p true).outcome h = (.ok f, h')) :
    f.isRemote = false := by
  cases (finds_of_find ho).1 with
  | environment hv =>
    rcases fromVariables_some hv with ⟨hf, -⟩ | ⟨-, hlocal, -⟩
    · exact hf
    · cases hlocal
  | source hlocal => cases hlocal
  | directory hv hs hd => exact fromDirectory_some hd

/-- The default source of a host, where one is set and exists. -/
def IsDefaultSource (h : Host ν) (s : Source) : Prop :=
  ∃ ss, Sources.load.outcome h = (.ok ss, h) ∧ ss.default? = some s

theorem IsDefaultSource.unique {s' : Source} (hs : IsDefaultSource h s)
    (hs' : IsDefaultSource h s') : s = s' := by
  obtain ⟨ss, hl, hd⟩ := hs
  obtain ⟨ss', hl', hd'⟩ := hs'
  obtain rfl := Except.ok.inj (Prod.mk.inj (hl.symm.trans hl')).1
  exact Option.some.inj (hd.symm.trans hd')

/-- **Where the variables name no provider, a homeserver is found exactly where the default source
is one**, and it is found as the source says. -/
theorem isRemote_find_iff (hpath : h.environment.nonempty? Environment.storePath = none)
    (hurl : h.environment.nonempty? Environment.serverUrl = none)
    (ho : (find p false).outcome h = (.ok f, h')) :
    (f.isRemote ↔ ∃ s, IsDefaultSource h s ∧ s.isRemote) ∧
      ∀ s, IsDefaultSource h s → s.isRemote → f.url = s.url ∧ f.token = s.token := by
  cases (finds_of_find ho).1 with
  | environment hv =>
    rcases fromVariables_some hv with ⟨-, hnamed⟩ | ⟨-, -, -, hnamed⟩
    · rw [hpath] at hnamed
      cases hnamed
    · rw [hurl] at hnamed
      cases hnamed
  | source hlocal hv hs =>
    obtain ⟨ss, s, hl, hd, hremote, hplace⟩ := fromSources_some hs
    have hdefault : IsDefaultSource h s := ⟨ss, hl, hd⟩
    refine ⟨⟨fun hf => ⟨s, hdefault, hremote ▸ hf⟩, ?_⟩, ?_⟩
    · rintro ⟨s', hs', hr⟩
      rw [hremote, hdefault.unique hs', hr]
    · intro s' hs' hr
      obtain rfl := hdefault.unique hs'
      exact hplace hr
  | directory hv hs hd =>
    have hno : ∀ s, ¬ IsDefaultSource h s := by
      rintro s ⟨ss, hl, hdefault⟩
      rw [fromSources_none (hs rfl) hl] at hdefault
      cases hdefault
    refine ⟨⟨fun hf => ?_, fun ⟨s, hs, _⟩ => absurd hs (hno s)⟩, fun s hs => absurd hs (hno s)⟩
    rw [fromDirectory_some hd] at hf
    cases hf

end Discovery

end PairChat
