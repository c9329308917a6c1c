import PairChat.Proofs.RequestedAccount
import PairChat.Proofs.UnseenFiles

/-!
# Explicit choices: what the surroundings cannot change

Options that name a provider are followed.  Take two hosts that differ in nothing but the variables
that name a provider and the file of the sources (`DifferInDefaults`).

* `Options.withEnvironment_congr`, `Options.target_withEnvironment`: explicit options are completed
  alike, and lead where they lead by themselves.
* `Discovery.fst_find_congr`: a search for a local store finds the same, if the variable for it is
  the same.
* `explicit_choice_kept`: **explicit options open the same client on both, or fail alike.**  This
  leaves out that the file of the sources lies in the store itself, or that a store is to be made
  and its path leads through it.
-/

namespace PairChat

open PairChat.Action
open Files (Path Tree)
open Files.Path (resolveNames)

variable {ν : Type} {h h' : Host ν} {o : Options} {s : Settings} {p : Path} {cwd : Path}

/-! ### Looking at two hosts -/

/-- An action that only looks has the same result, if each of its parts has. -/
theorem Action.IsRead.fst_bind_congr {σ α β : Type} {a : Action σ α} {f : α → Action σ β}
    {x y : σ} (ha : a.IsRead) (hxy : (a.outcome x).1 = (a.outcome y).1)
    (hf : ∀ v, (a.outcome x).1 = .ok v → ((f v).outcome x).1 = ((f v).outcome y).1) :
    ((a >>= f).outcome x).1 = ((a >>= f).outcome y).1 := by
  have hx := ha x
  have hy := ha y
  rw [outcome_bind, outcome_bind]
  rcases hr : a.outcome x with ⟨e | v, x'⟩ <;> rcases hr' : a.outcome y with ⟨e' | v', y'⟩ <;>
    rw [hr, hr'] at hxy <;> cases hxy
  · rfl
  · rw [hr] at hx
    rw [hr'] at hy
    obtain rfl : x' = x := hx
    obtain rfl : y' = y := hy
    exact hf v (by rw [hr])

/-! ### The file of the sources -/

namespace Sources

/-- The file of the sources belongs at this place. -/
def IsAt (h : Host ν) (q : List String) : Prop :=
  h.tree.placeOf h.directory (fileIn h) = .ok q

/-- The file of the sources lies in what the path leads to. -/
def LieIn (h : Host ν) (p : Path) : Prop :=
  ∃ q, IsAt h q ∧ (h.directory.resolve p).names <+: q

/-- The path leads to the file of the sources, or through it. -/
def AreOnTheWay (h : Host ν) (p : Path) : Prop :=
  ∃ q, IsAt h q ∧ q <+: (h.directory.resolve p).names

theorem IsAt.lieIn_iff {q : List String} (hq : IsAt h q) :
    LieIn h p ↔ (h.directory.resolve p).names <+: q := by
  refine ⟨?_, fun hpre => ⟨q, hq, hpre⟩⟩
  rintro ⟨q', hq', hpre⟩
  exact Except.ok.inj (hq'.symm.trans hq) ▸ hpre

theorem IsAt.areOnTheWay_iff {q : List String} (hq : IsAt h q) :
    AreOnTheWay h p ↔ q <+: (h.directory.resolve p).names := by
  refine ⟨?_, fun hpre => ⟨q, hq, hpre⟩⟩
  rintro ⟨q', hq', hpre⟩
  exact Except.ok.inj (hq'.symm.trans hq) ▸ hpre

/-- The file of the sources lies where the path leads to it. -/
theorem IsAt.lieIn (hq : IsAt h (resolveNames (h.directory.join p).names)) : LieIn h p :=
  ⟨_, hq, List.prefix_rfl⟩

theorem IsAt.eq_append {q : List String} (hq : IsAt h q) :
    ∃ d, q = d ++ ["directchats"] ++ ["config.yaml"] := by
  have hplace := Tree.eq_resolveNames_of_placeOf hq
  unfold fileIn directoryIn at hplace
  rw [Store.Directory.resolveNames_child _ _ (by decide),
    Store.Directory.resolveNames_child _ _ (by decide)] at hplace
  exact ⟨_, hplace⟩

theorem not_isAt_concat {names : List String} {name : String} (hname : name ≠ "config.yaml") :
    ¬ IsAt h (names ++ [name]) := by
  intro hq
  obtain ⟨d, hd⟩ := hq.eq_append
  exact hname (List.cons.inj (List.append_inj' hd rfl).2).1

end Sources

/-- **The hosts differ in nothing but the variables that name a provider and the file of the
sources**, which may be there or not and hold anything. -/
structure DifferInDefaults (h h' : Host ν) : Prop where
  environment : ∀ name, name ≠ Environment.storePath → name ≠ Environment.serverUrl →
    h.environment.value? name = h'.environment.value? name
  directory : h.directory = h'.directory
  files : Tree.SameBut (Sources.IsAt h) h.tree h'.tree

theorem DifferInDefaults.sameFiles (hd : DifferInDefaults h h') :
    Host.SameFiles h.directory (Sources.IsAt h) h h' := ⟨rfl, hd.directory.symm, hd.files⟩

/-- Other sources, and other variables that name a provider, are such a difference. -/
theorem differInDefaults_put {place : List String} {node : Files.Node} {env : Environment}
    (hplace : Sources.IsAt h place) (hold : h.tree.node? place ≠ some .directory)
    (hnode : node ≠ .directory)
    (henv : ∀ name, name ≠ Environment.storePath → name ≠ Environment.serverUrl →
      h.environment.value? name = env.value? name) :
    DifferInDefaults h { h with environment := env, tree := Tree.put place node h.tree } := by
  have hput : ∀ q, (Tree.put place node h.tree).node? q =
      if q = place then some node else h.tree.node? q :=
    fun _ => Tree.node?_put (Tree.ne_root_of_node? hold)
  refine ⟨henv, rfl, fun q hq => ?_, fun q hq => ?_⟩
  · rw [hput, if_neg]
    rintro rfl
    exact hq hplace
  · obtain rfl := Except.ok.inj (hq.symm.trans hplace)
    rw [hput, if_pos rfl]
    exact ⟨hold, by simpa using hnode⟩

/-! ### Options -/

namespace Options

/-- Explicit options are completed alike. -/
theorem withEnvironment_congr {env env' : Environment} (he : o.isExplicit = true)
    (hv : ∀ name, name ≠ Environment.storePath → name ≠ Environment.serverUrl →
      env.value? name = env'.value? name) : o.withEnvironment env = o.withEnvironment env' := by
  have hserver := hv Environment.homeServer (by decide) (by decide)
  have htoken := hv Environment.accessToken (by decide) (by decide)
  have huser := hv Environment.userId (by decide) (by decide)
  simp only [withEnvironment, isExplicit_homeServer, he, if_true, orVariable, hserver, htoken,
    huser]

/-- Explicit options lead where they lead by themselves. -/
theorem target_withEnvironment (he : o.isExplicit = true) (env : Environment) (cwd : Path) :
    (o.withEnvironment env).target cwd = o.target cwd := by
  simp only [withEnvironment, isExplicit_homeServer, he, if_true]
  split_ifs <;> rfl

theorem createIfMissing_withEnvironment (env : Environment) :
    (o.withEnvironment env).createIfMissing = o.createIfMissing := by
  simp only [withEnvironment]
  split_ifs <;> rfl

/-- A store that is looked for does not go together with the location of a homeserver. -/
theorem isGiven_url_of_fault? {env : Environment} (hlocal : o.findLocal = true)
    (hf : (o.withEnvironment env).fault? = none) : isGiven o.url = false := by
  have he : o.isExplicit = true := by simp [isExplicit, namesLocal, hlocal]
  rcases hurl : isGiven o.url
  · rfl
  · simp only [withEnvironment, isExplicit_homeServer, he, hurl, if_true] at hf
    simp [fault?, namesLocal, hlocal, hurl] at hf

theorem target_eq_directory (ht : o.target cwd = .ok (.directory p)) :
    ∃ q, pathOf o.path = .ok q ∧ p = cwd.resolve q := by
  have hhomeserver : ∀ r : Except Failure String, r.map Target.homeserver ≠ .ok (.directory p) := by
    rintro (_ | _) <;> simp [Except.map]
  unfold target at ht
  split_ifs at ht with h1 h2 h3 h4
  · cases ht
  · rcases hq : pathOf o.path with e | q <;> rw [hq] at ht
    · cases ht
    · refine ⟨q, rfl, ?_⟩
      rcases hp : cwd.resolved q with e | p' <;> simp only [bind, Except.bind, hp] at ht
      · cases ht
      · cases ht
        unfold Path.resolved at hp
        split at hp <;> cases hp
        rfl
  · cases ht
  · exact absurd ht (hhomeserver _)
  · cases ht

/-- The nearest directory is looked for only if nothing else is named. -/
theorem target_eq_nearestDirectory (ht : o.target cwd = .ok .nearestDirectory) :
    o.findLocal = true ∧ o.inMemory = false ∧ isGiven o.path = false := by
  have hdirectory : ∀ r : Except Failure Path, r.map Target.directory ≠ .ok .nearestDirectory := by
    rintro (_ | _) <;> simp [Except.map]
  have hhomeserver : ∀ r : Except Failure String,
      r.map Target.homeserver ≠ .ok .nearestDirectory := by
    rintro (_ | _) <;> simp [Except.map]
  unfold target at ht
  split_ifs at ht with h1 h2 h3 h4
  · cases ht
  · exact absurd ht (hdirectory _)
  · exact ⟨h3, by simpa using h1, by simpa using h2⟩
  · exact absurd ht (hhomeserver _)
  · cases ht

theorem target_of_findLocal (hlocal : o.findLocal = true) (hmemory : o.inMemory = false)
    (hpath : isGiven o.path = false) : o.target cwd = .ok .nearestDirectory := by
  simp [target, hlocal, hmemory, hpath]

end Options

/-! ### Searching for a local store -/

namespace Discovery

theorem isRead_find (p : Option Path) (requireLocal : Bool) :
    (find p requireLocal : Action (Host ν) Finding).IsRead := by
  refine (isRead_fromVariables requireLocal).bind fun named => ?_
  rcases named with _ | f
  · cases requireLocal
    · refine isRead_fromSources.bind fun source => ?_
      rcases source with _ | f
      · refine (isRead_fromDirectory p).bind fun near => ?_
        rcases near with _ | f
        · exact isRead_throw _
        · exact isRead_pure _
      · exact isRead_pure _
    · refine (isRead_fromDirectory p).bind fun near => ?_
      rcases near with _ | f
      · exact isRead_throw _
      · exact isRead_pure _
  · exact isRead_pure _

theorem rootAbove_nil (h : Host ν) (names : List String) : rootAbove h names [] = (do
    if ← h.tree.exists? h.directory (Path.child ⟨"/", names⟩ ".git") then return some ⟨"/", names⟩
    else return none) := rfl

theorem rootAbove_cons (h : Host ν) (names : List String) (n : String) (rest : List String) :
    rootAbove h names (n :: rest) = (do
      if ← h.tree.exists? h.directory (Path.child ⟨"/", names⟩ ".git") then
        return some ⟨"/", names⟩
      else rootAbove h names.dropLast rest) := rfl

theorem outcome_repositoryRoot (p : Path) : (repositoryRoot p).outcome h =
    (h.directory.resolved p >>= fun q => rootAbove h q.names q.names, h) := by
  have hresolved : (Host.resolved p).outcome h = (h.directory.resolved p, h) := rfl
  unfold repositoryRoot
  rw [outcome_bind_ok (outcome_getState h), outcome_bind, hresolved]
  rcases h.directory.resolved p with e | q <;> rfl

section Looks
variable (hlook : ∀ p : Path, h.tree.exists? h.directory (p.child ".git") =
    h'.tree.exists? h'.directory (p.child ".git"))
include hlook

theorem rootAbove_congr (names rest : List String) :
    rootAbove h names rest = rootAbove h' names rest := by
  induction rest generalizing names with
  | nil => rw [rootAbove_nil, rootAbove_nil, hlook]
  | cons n rest ih => rw [rootAbove_cons, rootAbove_cons, hlook, ih]

/-- A search for a repository comes to the same where its look-ups do. -/
theorem fst_repositoryRoot_congr (hdirectory : h.directory = h'.directory) (p : Path) :
    ((repositoryRoot p).outcome h).1 = ((repositoryRoot p).outcome h').1 := by
  rw [outcome_repositoryRoot, outcome_repositoryRoot, hdirectory]
  simp only [rootAbove_congr hlook]

end Looks

/-- A variable that is taken to name something is set to some text. -/
theorem exists_nonempty? {env : Environment} {name : String}
    (hv : ((env.value? name).getD "" != "") = true) :
    ∃ v, env.nonempty? name = some v ∧ (env.value? name).getD "" = v := by
  rw [isNamed_iff, Option.isSome_iff_exists] at hv
  obtain ⟨v, hv⟩ := hv
  refine ⟨v, hv, ?_⟩
  rw [(Option.filter_eq_some_iff.mp hv).1]
  rfl

section Differ
variable (hd : DifferInDefaults h h')
include hd

theorem exists?_child {name : String} (hname : name ≠ "config.yaml") (hdots : name ≠ "..")
    (p : Path) :
    h.tree.exists? h.directory (p.child name) = h'.tree.exists? h'.directory (p.child name) := by
  rw [← hd.directory]
  refine hd.files.exists?_eq ?_
  rw [Store.Directory.resolveNames_child _ _ hdots]
  exact Sources.not_isAt_concat hname

theorem fst_isDirectory_congr
    (hp : ¬ Sources.IsAt h (resolveNames (h.directory.join p).names)) :
    ((Host.isDirectory p).outcome h).1 = ((Host.isDirectory p).outcome h').1 := by
  show h.tree.isDirectory h.directory p = h'.tree.isDirectory h'.directory p
  rw [← hd.directory]
  exact hd.files.isDirectory_eq hp

theorem fst_localDirectory_congr :
    ((localDirectory none).outcome h).1 = ((localDirectory none).outcome h').1 := by
  have hdirectory : ∀ p : Path, ((Host.isDirectory (p.child directoryName)).outcome h).1 =
      ((Host.isDirectory (p.child directoryName)).outcome h').1 := by
    intro p
    refine fst_isDirectory_congr hd ?_
    rw [Store.Directory.resolveNames_child _ _ (by decide)]
    exact Sources.not_isAt_concat (by decide)
  refine (isRead_start none).fst_bind_congr (congrArg Except.ok hd.directory) fun here _ => ?_
  refine (Host.isRead_isDirectory _).fst_bind_congr (hdirectory here) fun near _ => ?_
  cases near
  · refine (isRead_repositoryRoot here).fst_bind_congr (fst_repositoryRoot_congr
      (exists?_child hd (by decide) (by decide)) hd.directory here) fun root _ => ?_
    cases root
    · rfl
    · exact (Host.isRead_isDirectory _).fst_bind_congr (hdirectory _) fun _ _ => rfl
  · rfl

theorem fst_variableValue_congr :
    ((variableValue Environment.userId).outcome h).1 =
      ((variableValue Environment.userId).outcome h').1 := by
  have huser := hd.environment Environment.userId (by decide) (by decide)
  exact congrArg (fun v => Except.ok (Value.ofText? v)) huser

theorem fst_fromDirectory_congr :
    ((fromDirectory none).outcome h).1 = ((fromDirectory none).outcome h').1 := by
  refine (isRead_localDirectory none).fst_bind_congr (fst_localDirectory_congr hd) fun near _ => ?_
  cases near
  · rfl
  · exact (Host.isRead_ask _).fst_bind_congr (fst_variableValue_congr hd) fun _ _ => rfl

variable (hpath : h.environment.value? Environment.storePath =
    h'.environment.value? Environment.storePath)
  (happart : ∀ path, h.environment.nonempty? Environment.storePath = some path →
    ¬ Sources.LieIn h (Path.ofText path))
include hpath happart

theorem fst_fromVariables_congr :
    ((fromVariables true).outcome h).1 = ((fromVariables true).outcome h').1 := by
  simp only [fromVariables, outcome_bind_ok (Host.outcome_setting? _), ← hpath, Bool.not_true,
    Bool.and_false, Bool.false_eq_true, if_false]
  split_ifs with hnamed
  · obtain ⟨path, hv, he⟩ := exists_nonempty? hnamed
    rw [he]
    have hlook := fst_isDirectory_congr hd fun hq => happart path hv hq.lieIn
    refine (Host.isRead_isDirectory (Path.ofText path)).fst_bind_congr hlook fun found _ => ?_
    cases found
    · rfl
    · exact (Host.isRead_ask _).fst_bind_congr (fst_variableValue_congr hd) fun _ _ => rfl
  · rfl

/-- **A search for a local store finds the same**, if the variable for it is the same. -/
theorem fst_find_congr :
    ((find none true).outcome h).1 = ((find none true).outcome h').1 := by
  refine (isRead_fromVariables true).fst_bind_congr (fst_fromVariables_congr hd hpath happart)
    fun named _ => ?_
  rcases named with _ | f
  · refine (isRead_fromDirectory none).fst_bind_congr (fst_fromDirectory_congr hd) fun near _ => ?_
    rcases near with _ | f <;> rfl
  · rfl

end Differ

/-- The variable for a store names the one that is found by it. -/
theorem path_of_fromVariables {f : Finding}
    (ho : (fromVariables true).outcome h = (.ok (some f), h')) :
    ∃ v, h.environment.nonempty? Environment.storePath = some v ∧
      f.path = some (Path.ofText v) := by
  simp only [fromVariables, outcome_bind_ok (Host.outcome_setting? _), Bool.not_true,
    Bool.and_false, Bool.false_eq_true, if_false] at ho
  split_ifs at ho with hnamed
  · obtain ⟨v, hv, he⟩ := exists_nonempty? hnamed
    obtain ⟨found, -, ho⟩ := (Host.isRead_isDirectory _).exists_of_outcome_bind ho
    cases found
    · cases ho
    · obtain ⟨user, -, ho⟩ := (Host.isRead_ask _).exists_of_outcome_bind ho
      obtain rfl := Option.some.inj (Except.ok.inj (Prod.mk.inj ho).1)
      exact ⟨v, hv, by rw [he]⟩
  · cases ho

/-- A directory with a store is here, or at the root of the repository. -/
theorem localDirectory_some {path : Path} {start : Option Path}
    (ho : (localDirectory start).outcome h = (.ok (some path), h')) :
    ∃ here : Path, path = here.child directoryName := by
  obtain ⟨here, -, ho⟩ := (isRead_start start).exists_of_outcome_bind ho
  obtain ⟨found, -, ho⟩ := (Host.isRead_isDirectory _).exists_of_outcome_bind ho
  cases found
  · obtain ⟨root, -, ho⟩ := (isRead_repositoryRoot _).exists_of_outcome_bind ho
    rcases root with _ | root
    · cases ho
    · obtain ⟨found, -, ho⟩ := (Host.isRead_isDirectory _).exists_of_outcome_bind ho
      cases found <;> cases ho
      exact ⟨root, rfl⟩
  · cases ho
    exact ⟨here, rfl⟩

/-- Where a local store is found: at the variable for it, or in a directory of its usual name. -/
theorem path_of_find_local {f : Finding} (ho : (find none true).outcome h = (.ok f, h')) :
    ∃ p, f.path = some p ∧
      ((∃ v, h.environment.nonempty? Environment.storePath = some v ∧ p = Path.ofText v) ∨
        ∃ here : Path, p = here.child directoryName) := by
  cases (finds_of_find ho).1 with
  | environment hv =>
    obtain ⟨v, hv, hf⟩ := path_of_fromVariables hv
    exact ⟨_, hf, .inl ⟨v, hv, rfl⟩⟩
  | source hlocal => cases hlocal
  | directory _ _ hd =>
    obtain ⟨near, hnear, hd⟩ := (isRead_localDirectory none).exists_of_outcome_bind hd
    rcases near with _ | path
    · cases hd
    obtain ⟨user, -, hd⟩ := (Host.isRead_ask _).exists_of_outcome_bind hd
    obtain rfl := Option.some.inj (Except.ok.inj (Prod.mk.inj hd).1)
    exact ⟨path, rfl, .inr (localDirectory_some hnear)⟩

end Discovery

/-! ### Opening clients -/

namespace Client

open Store.Directory (IsApart)

section Apart
variable (hplace : ¬ Sources.LieIn h p)
include hplace

/-- No file of a store that the sources do not lie in is the file of the sources. -/
theorem isApart_of_not_lieIn : IsApart (Sources.IsAt h) h.directory p where
  path hq := hplace hq.lieIn
  document hq := by
    refine hplace ⟨_, hq, ?_⟩
    rw [Store.Directory.configFile, Store.Directory.resolveNames_child _ _ (by decide)]
    exact List.prefix_append _ _
  tables hq := by
    rw [Store.Directory.tablesFile, Store.Directory.resolveNames_child _ _ (by decide)] at hq
    exact Sources.not_isAt_concat (by decide) hq

end Apart

/-- A store in a directory of the usual name is another one than that of the sources. -/
theorem isApart_directoryName (here : Path) :
    IsApart (Sources.IsAt h) h.directory (here.child Discovery.directoryName) := by
  have hname : resolveNames (h.directory.join (here.child Discovery.directoryName)).names =
      resolveNames (h.directory.join here).names ++ [Discovery.directoryName] :=
    Store.Directory.resolveNames_child _ _ (by decide)
  refine ⟨fun hq => ?_, fun hq => ?_, fun hq => ?_⟩
  · rw [hname] at hq
    exact Sources.not_isAt_concat (by decide) hq
  · rw [Store.Directory.configFile, Store.Directory.resolveNames_child _ _ (by decide),
      hname] at hq
    obtain ⟨d, hd⟩ := hq.eq_append
    have hlast := (List.append_inj' (List.append_inj' hd rfl).1 rfl).2
    exact absurd hlast (by decide)
  · rw [Store.Directory.tablesFile, Store.Directory.resolveNames_child _ _ (by decide)] at hq
    exact Sources.not_isAt_concat (by decide) hq

/-- A store at a path that was resolved is opened or made alike. -/
theorem paired_openOrMake_resolve {createIfMissing : Bool} (hplace : ¬ Sources.LieIn h p)
    (hway : createIfMissing = true → ¬ Sources.AreOnTheWay h p) (homeServer : Value) :
    Paired (Host.SameFiles h.directory (Sources.IsAt h)) Eq
      (Store.Directory.openOrMake (h.directory.resolve p) createIfMissing homeServer :
        Action (Host ν) Store.Directory.Opened)
      (Store.Directory.openOrMake (h.directory.resolve p) createIfMissing homeServer) := by
  have hdots : ".." ∉ (h.directory.resolve p).names := Files.Path.not_mem_resolveNames _
  have hsame : h.directory.resolve (h.directory.resolve p) = h.directory.resolve p :=
    congrArg (Files.Path.mk "/") (Files.Path.resolveNames_of_not_mem hdots)
  have happart : IsApart (Sources.IsAt h) h.directory (h.directory.resolve p) := by
    refine isApart_of_not_lieIn fun ⟨q, hq, hpre⟩ => hplace ⟨q, hq, ?_⟩
    rwa [hsame] at hpre
  refine Store.Directory.paired_openOrMake happart createIfMissing homeServer ?_
  intro hmake before rest he hq
  have hbefore : ".." ∉ before := fun hm => hdots (he ▸ List.mem_append_left _ hm)
  rw [Files.Path.resolveNames_of_not_mem hbefore] at hq
  exact hway hmake ⟨before, hq, rest, he.symm⟩

section Differ
variable (hd : DifferInDefaults h h')
include hd

theorem settingsOf_congr (he : o.isExplicit = true) :
    Settings.ofOptions h.environment h.directory o =
      Settings.ofOptions h'.environment h'.directory o := by
  unfold Settings.ofOptions
  rw [Options.withEnvironment_congr he hd.environment, hd.directory]

/-- A local store that was found is opened alike. -/
theorem fst_openLocal_congr (happart : IsApart (Sources.IsAt h) h.directory p) (user : Value) :
    ((openLocal s p user).outcome h).1 = ((openLocal s p user).outcome h').1 := by
  exact Paired.fst_eq (Paired.bind_eq (Store.Directory.paired_openOrMake happart false .null nofun)
    fun _ => paired_pure rfl) hd.sameFiles

/-- The nearest local store is opened alike. -/
theorem fst_nearest_congr (hpath : h.environment.value? Environment.storePath =
      h'.environment.value? Environment.storePath)
    (happart : ∀ path, h.environment.nonempty? Environment.storePath = some path →
      ¬ Sources.LieIn h (Path.ofText path)) :
    ((do openFinding s (← Discovery.find none true) : Action (Host ν) Client).outcome h).1 =
      ((do openFinding s (← Discovery.find none true) : Action (Host ν) Client).outcome h').1 := by
  have hfind := Discovery.fst_find_congr hd hpath happart
  have hx := Discovery.isRead_find none true h
  have hx' := Discovery.isRead_find none true h'
  rcases hr : (Discovery.find none true).outcome h with ⟨e | f, g⟩ <;>
    rcases hr' : (Discovery.find none true).outcome h' with ⟨e' | f', g'⟩ <;>
    rw [hr, hr'] at hfind <;> cases hfind
  · rw [outcome_bind_error hr, outcome_bind_error hr']
  · rw [hr] at hx
    rw [hr'] at hx'
    obtain rfl : g = h := hx
    obtain rfl : g' = h' := hx'
    rw [outcome_bind_ok hr, outcome_bind_ok hr']
    obtain ⟨p, hp, hfound⟩ := Discovery.path_of_find_local hr
    unfold openFinding
    rw [Discovery.isRemote_of_find_local hr, hp]
    refine fst_openLocal_congr hd ?_ _
    rcases hfound with ⟨v, hv, rfl⟩ | ⟨here, rfl⟩
    · exact isApart_of_not_lieIn (happart v hv)
    · exact isApart_directoryName here

/-- **Settings that name a provider open the same client, or fail alike.** -/
theorem fst_ofSettings_congr (ht : s.target ≠ .discovered)
    (hdirectory : ∀ path, s.target = .directory path → ∃ p, path = h.directory.resolve p ∧
      ¬ Sources.LieIn h p ∧ (s.options.createIfMissing = true → ¬ Sources.AreOnTheWay h p))
    (hnearest : s.target = .nearestDirectory →
      h.environment.value? Environment.storePath = h'.environment.value? Environment.storePath ∧
        ∀ path, h.environment.nonempty? Environment.storePath = some path →
          ¬ Sources.LieIn h (Path.ofText path)) :
    ((ofSettings s).outcome h).1 = ((ofSettings s).outcome h').1 := by
  unfold ofSettings
  rcases hs : s.target with _ | path | _ | url | _
  · rfl
  · obtain ⟨p, rfl, hplace, hway⟩ := hdirectory path hs
    exact Paired.fst_eq (Paired.bind_eq (paired_openOrMake_resolve hplace hway _)
      fun _ => paired_pure rfl) hd.sameFiles
  · exact fst_nearest_congr hd (hnearest hs).1 (hnearest hs).2
  · rfl
  · exact absurd hs ht

end Differ

/-! ### What is opened -/

/-- The client is on the provider that is meant. -/
def IsOn (c : Client) : Target → Prop
  | .memory => c.kind = "in_memory" ∧ c.location = ":memory:"
  | .directory path => c.kind = "local" ∧ c.location = path.toText
  | .nearestDirectory => c.kind = "local"
  | .homeserver url => c.kind = "remote" ∧ c.location = url
  | .discovered => True

theorem isOn_ofSettings {c : Client} (ho : (ofSettings s).outcome h = (.ok c, h')) :
    c.IsOn s.target := by
  unfold ofSettings at ho
  rcases ht : s.target with _ | path | _ | url | _ <;> rw [ht] at ho
  · obtain rfl := Except.ok.inj (Prod.mk.inj ho).1
    exact ⟨rfl, rfl⟩
  · obtain ⟨opened, h₁, -, ho⟩ := exists_of_outcome_bind ho
    obtain rfl := Except.ok.inj (Prod.mk.inj ho).1
    exact ⟨rfl, rfl⟩
  · obtain ⟨f, h₁, hf, ho⟩ := exists_of_outcome_bind ho
    rw [openFinding, Discovery.isRemote_of_find_local hf, if_neg Bool.false_ne_true] at ho
    rcases hp : f.path with _ | path <;> rw [hp] at ho
    · cases ho
    · obtain ⟨opened, h₂, -, ho⟩ := exists_of_outcome_bind ho
      obtain rfl := Except.ok.inj (Prod.mk.inj ho).1
      rfl
  · obtain ⟨account, ha, hc⟩ := exists_of_bind_eq_ok (Prod.mk.inj ho).1
    obtain ⟨shown, -, ha⟩ := exists_of_bind_eq_ok ha
    obtain ⟨location, -, ha⟩ := exists_of_bind_eq_ok ha
    obtain rfl := Except.ok.inj hc
    split_ifs at ha
    · cases ha
    · obtain rfl := Except.ok.inj ha
      exact ⟨rfl, rfl⟩
  · trivial

theorem outcome_ofOptions (o : Options) (h : Host ν) : (ofOptions o).outcome h =
    match Settings.ofOptions h.environment h.directory o with
    | .error e => (.error e, h)
    | .ok s => (ofSettings s).outcome h := by
  have hsettings : (settingsOf o).outcome h =
      (Settings.ofOptions h.environment h.directory o, h) := rfl
  unfold ofOptions
  rw [outcome_bind, hsettings]
  rcases Settings.ofOptions h.environment h.directory o with e | s <;> rfl

/-- Explicit options open alike, if their settings do. -/
theorem fst_ofOptions_congr (hd : DifferInDefaults h h') (he : o.isExplicit = true)
    (hsettings : ∀ s, Settings.ofOptions h.environment h.directory o = .ok s →
      ((ofSettings s).outcome h).1 = ((ofSettings s).outcome h').1) :
    ((ofOptions o).outcome h).1 = ((ofOptions o).outcome h').1 := by
  rw [outcome_ofOptions, outcome_ofOptions, ← settingsOf_congr hd he]
  rcases hs : Settings.ofOptions h.environment h.directory o with e | s
  · rfl
  · exact hsettings s hs

/-- Settings of explicit options lead where the options lead. -/
theorem target_of_settings (he : o.isExplicit = true)
    (hs : Settings.ofOptions h.environment h.directory o = .ok s) :
    o.target h.directory = .ok s.target := by
  obtain ⟨hoptions, -, ht⟩ := Settings.ofOptions_eq_ok hs
  rwa [hoptions, Options.target_withEnvironment he] at ht

theorem isOn_ofOptions {c : Client} (he : o.isExplicit = true)
    (ho : ((ofOptions o).outcome h).1 = .ok c) :
    ∃ t, o.target h.directory = .ok t ∧ c.IsOn t := by
  rw [outcome_ofOptions] at ho
  rcases hs : Settings.ofOptions h.environment h.directory o with e | s <;> rw [hs] at ho
  · cases ho
  · exact ⟨s.target, target_of_settings he hs, isOn_ofSettings (Prod.ext ho rfl)⟩

end Client

/-- **An explicit choice of a provider is kept.** What is opened, or fails to open, is the same
whatever the sources and the variables for a default are; and a client that is opened is on the
provider that was chosen. A store that is only looked for still depends on the variable for it. -/
theorem explicit_choice_kept (hd : DifferInDefaults h h') (o : Options) :
    (o.inMemory = true ∨ Options.isGiven o.path = true ∨ Options.isGiven o.url = true →
      (∀ p, Options.pathOf o.path = .ok p →
        ¬ Sources.LieIn h p ∧ (o.createIfMissing = true → ¬ Sources.AreOnTheWay h p)) →
      ((Client.ofOptions o).outcome h).1 = ((Client.ofOptions o).outcome h').1 ∧
        ∀ c, ((Client.ofOptions o).outcome h).1 = .ok c →
          ∃ t, o.target h.directory = .ok t ∧ c.IsOn t) ∧
    (o.findLocal = true → o.inMemory = false → Options.isGiven o.path = false →
      Options.isGiven o.url = false →
      h.environment.value? Environment.storePath = h'.environment.value? Environment.storePath →
      (∀ path, h.environment.nonempty? Environment.storePath = some path →
        ¬ Sources.LieIn h (Path.ofText path)) →
      ((Client.ofOptions o).outcome h).1 = ((Client.ofOptions o).outcome h').1 ∧
        ∀ c, ((Client.ofOptions o).outcome h).1 = .ok c → c.kind = "local") := by
  constructor
  · intro hgiven hplace
    have he : o.isExplicit = true := by
      rcases hgiven with hg | hg | hg <;> simp [Options.isExplicit, Options.namesLocal, hg]
    refine ⟨Client.fst_ofOptions_congr hd he fun s hs => ?_, fun c => Client.isOn_ofOptions he⟩
    have ht := Client.target_of_settings he hs
    refine Client.fst_ofSettings_congr hd ?_ ?_ ?_
    · intro hdiscovered
      rw [hdiscovered, Options.target_eq_discovered_iff, he] at ht
      cases ht
    · intro path hpath
      rw [hpath] at ht
      obtain ⟨p, hp, rfl⟩ := Options.target_eq_directory ht
      obtain ⟨hoptions, -, -⟩ := Settings.ofOptions_eq_ok hs
      refine ⟨p, rfl, (hplace p hp).1, fun hmake => (hplace p hp).2 ?_⟩
      rwa [hoptions, Options.createIfMissing_withEnvironment] at hmake
    · intro hnearest
      rw [hnearest] at ht
      obtain ⟨hlocal, hmemory, hpath⟩ := Options.target_eq_nearestDirectory ht
      obtain ⟨hoptions, hfault, -⟩ := Settings.ofOptions_eq_ok hs
      have hurl := Options.isGiven_url_of_fault? hlocal (hoptions ▸ hfault)
      simp [hmemory, hpath, hurl] at hgiven
  · intro hlocal hmemory hpath hurl hvariable hplace
    have he : o.isExplicit = true := by simp [Options.isExplicit, Options.namesLocal, hlocal]
    have htarget : o.target h.directory = .ok .nearestDirectory :=
      Options.target_of_findLocal hlocal hmemory hpath
    constructor
    · refine Client.fst_ofOptions_congr hd he fun s hs => ?_
      have ht := Except.ok.inj ((Client.target_of_settings he hs).symm.trans htarget)
      refine Client.fst_ofSettings_congr hd (by simp [ht]) (by simp [ht]) fun _ => ?_
      exact ⟨hvariable, hplace⟩
    · intro c hc
      obtain ⟨t, ht, hon⟩ := Client.isOn_ofOptions he hc
      obtain rfl := Except.ok.inj (htarget.symm.trans ht)
      exact hon

/-- Where the sources of `workHost` are. -/
def workPlace : List String := ["home", "me", ".config", "directchats", "config.yaml"]

/-- A host with a local store besides its sources, whose default is a homeserver. -/
def chatsHost : Host Unit :=
  { workHost with tree := workHost.tree ++ [([".directchats"], .directory)] }

/-- The same host with sources that nobody can read, and a variable that names a homeserver. -/
def brokenHost : Host Unit :=
  { chatsHost with
    environment := (Environment.serverUrl, "https://example.org") :: chatsHost.environment
    tree := Tree.put workPlace (.file "sources: [") chatsHost.tree }

theorem isAt_workPlace : Sources.IsAt chatsHost workPlace := by
  show chatsHost.tree.placeOf chatsHost.directory (Sources.fileIn chatsHost) = _
  decide +kernel

theorem differInDefaults_brokenHost : DifferInDefaults chatsHost brokenHost := by
  refine differInDefaults_put isAt_workPlace (by decide +kernel) (by decide) fun name _ hurl => ?_
  simp [Environment.value?, List.lookup_cons, beq_false_of_ne hurl]

/-- A store is made at its path, and the nearest one is opened, whatever the sources are. -/
theorem explicit_choice_kept_broken :
    let o : Options := { path := .text "/home/me/chats", createIfMissing := true }
    let near : Options := { findLocal := true }
    DifferInDefaults chatsHost brokenHost ∧
      ((Client.ofOptions o).outcome chatsHost).1 = ((Client.ofOptions o).outcome brokenHost).1 ∧
      ((Client.ofOptions near).outcome chatsHost).1 =
        ((Client.ofOptions near).outcome brokenHost).1 ∧
      ∃ c d, ((Client.ofOptions o).outcome chatsHost).1 = .ok c ∧ c.kind = "local" ∧
        ((Client.ofOptions near).outcome chatsHost).1 = .ok d ∧ d.kind = "local" := by
  intro o near
  have hd := differInDefaults_brokenHost
  have hplace : ∀ p, Options.pathOf o.path = .ok p →
      ¬ Sources.LieIn chatsHost p ∧
        (o.createIfMissing = true → ¬ Sources.AreOnTheWay chatsHost p) := by
    intro p hp
    obtain rfl := Except.ok.inj hp
    rw [isAt_workPlace.lieIn_iff, isAt_workPlace.areOnTheWay_iff]
    decide +kernel
  obtain ⟨heq, hon⟩ := (explicit_choice_kept hd o).1 (.inr (.inl rfl)) hplace
  obtain ⟨hnear, hlocal⟩ := (explicit_choice_kept hd near).2 rfl rfl rfl rfl rfl nofun
  have hopens : ((Client.ofOptions o).outcome chatsHost).1.isOk = true ∧
      ((Client.ofOptions near).outcome chatsHost).1.isOk = true := by decide +kernel
  refine ⟨hd, heq, hnear, ?_⟩
  rcases hc : ((Client.ofOptions o).outcome chatsHost).1 with e | c
  · rw [hc] at hopens
    cases hopens.1
  rcases hc' : ((Client.ofOptions near).outcome chatsHost).1 with e | d
  · rw [hc'] at hopens
    cases hopens.2
  obtain ⟨t, ht, hc⟩ := hon c hc
  obtain rfl := Except.ok.inj ht
  exact ⟨c, d, rfl, hc.1, rfl, hlocal d hc'⟩

/-- A host without sources, whose variable for a store names the directory they belong in. -/
def bareHost : Host Unit where
  environment := (Environment.storePath, "/home/me/.config/directchats") :: workHost.environment
  tree := workHost.tree.filter (·.1 ≠ workPlace)
  server := ()

/-- The same host with a list where the sources should be. -/
def listedHost : Host Unit :=
  { bareHost with tree := Tree.put workPlace (.file "- a\n") bareHost.tree }

theorem isAt_bareHost : Sources.IsAt bareHost workPlace := by
  show bareHost.tree.placeOf bareHost.directory (Sources.fileIn bareHost) = _
  decide +kernel

theorem differInDefaults_listedHost : DifferInDefaults bareHost listedHost :=
  differInDefaults_put isAt_bareHost (by decide +kernel) (by decide) fun _ _ _ => rfl

/-- The sources are in the way of a store whose path leads through them, and they are the
configuration of a store that the variable finds around them. -/
theorem explicit_choice_blocked :
    let through : Options :=
      { path := .text "/home/me/.config/directchats/config.yaml/store", createIfMissing := true }
    let near : Options := { findLocal := true }
    DifferInDefaults bareHost listedHost ∧
      bareHost.environment.value? Environment.storePath =
        listedHost.environment.value? Environment.storePath ∧
      (∀ p, Options.pathOf through.path = .ok p → ¬ Sources.LieIn bareHost p) ∧
      ((Client.ofOptions through).outcome bareHost).1.isOk = true ∧
      ((Client.ofOptions through).outcome listedHost).1 =
        .error (.file .notDirectory "/home/me/.config/directchats/config.yaml/store") ∧
      ((Client.ofOptions near).outcome bareHost).1.isOk = true ∧
      ((Client.ofOptions near).outcome listedHost).1 = .error (.shape .attribute) := by
  refine ⟨differInDefaults_listedHost, rfl, ?_, by decide +kernel, by decide +kernel,
    by decide +kernel, by decide +kernel⟩
  intro p hp
  obtain rfl := Except.ok.inj hp
  rw [isAt_bareHost.lieIn_iff]
  decide +kernel

end PairChat
