import PairChat.Source
import PairChat.Proofs.HostFiles

/-!
# Kept sources: what a host has in its file of sources

A host has no sources yet (`Sources.AreMissing`), or there is a document of some sources in its file
(`Sources.AreKept`).

* `Sources.outcome_load`: what is read of the sources, as a function of the tree.
* `Sources.ofValue_toEntries`: plain sources are read as they were written.  They are made of texts,
  and what is empty in them is missing.
* `Sources.CanBeKept.outcome_save`, `Sources.AreMissing.outcome_save`: what keeping other sources
  leaves.  It may fail on the first try, and then there are still none; later it always succeeds.
-/

namespace PairChat

open PairChat.Action
open Files (Path Tree Node)

/-! ### Plain sources -/

theorem Value.isEmpty_text {s : String} (h : s ≠ "") : (Value.text s).isEmpty = false := by
  have hs : s.isEmpty = false := by simpa using h
  exact hs

/-- The value, unless it counts as missing. -/
def Value.orNull (v : Value) : Value := if v.isEmpty then .null else v

theorem Value.orNull_eq (v : Value) : v.orNull = .null ∨ v.orNull = v := by
  unfold orNull
  split_ifs
  · exact Or.inl rfl
  · exact Or.inr rfl

theorem Value.isEmpty_orNull (v : Value) : v.orNull.isEmpty = v.isEmpty := by
  unfold orNull
  rcases hv : v.isEmpty
  · simp [hv]
  · rfl

theorem Value.orNull_orNull (v : Value) : v.orNull.orNull = v.orNull := by
  rcases orNull_eq v with hv | hv
  · rw [hv]
    rfl
  · rw [hv, hv]

theorem Value.orNull_ofText? (s : Option String) :
    (Value.ofText? s).orNull = .null ∨ ∃ t, t ≠ "" ∧ (Value.ofText? s).orNull = .text t := by
  rcases s with _ | t
  · exact Or.inl rfl
  · by_cases ht : t = ""
    · subst ht
      exact Or.inl rfl
    · refine Or.inr ⟨t, ht, ?_⟩
      rw [Value.ofText?, Value.orNull, Value.isEmpty_text ht, if_neg Bool.false_ne_true]

namespace Source

theorem given_orNull (key : String) (v : Value) : given key v.orNull = given key v := by
  unfold given Value.orNull
  rcases hv : v.isEmpty
  · simp [hv]
  · rfl

/-- A source on a homeserver. An empty token is none. -/
def ofUrl (name url : String) (token : Option String) : Source :=
  { name := .text name, type := remoteType, url := .text url
    token := (Value.ofText? token).orNull }

/-- A source in a local store. An empty account is none. -/
def ofPath (name path : String) (user : Option String) : Source :=
  { name := .text name, type := localType, path := .text path
    user := (Value.ofText? user).orNull }

/-- **The source is made of texts, and nothing in it is empty but its name or its place.** -/
inductive IsPlain : Source → Prop
  | ofUrl (name url : String) (token : Option String) : IsPlain (ofUrl name url token)
  | ofPath (name path : String) (user : Option String) : IsPlain (ofPath name path user)

variable {s : Source}

theorem IsPlain.exists_name (h : s.IsPlain) : ∃ n, s.name = .text n := by
  cases h with
  | ofUrl name url token => exact ⟨name, rfl⟩
  | ofPath name path user => exact ⟨name, rfl⟩

theorem toValue_ofUrl (name url : String) (token : Option String) : (ofUrl name url token).toValue =
    .object ([("name", .text name), ("type", remoteType)] ++
      ("url", .text url) :: given "access_token" (Value.ofText? token)) := by
  rw [← given_orNull "access_token"]
  rfl

theorem toValue_ofPath (name path : String) (user : Option String) :
    (ofPath name path user).toValue = .object ([("name", .text name), ("type", localType)] ++
      ("path", .text path) :: given "user_id" (Value.ofText? user)) := by
  rw [← given_orNull "user_id"]
  rfl

theorem given_text (key : String) {t : String} (ht : t ≠ "") :
    given key (.text t) = [(key, .text t)] := by
  rw [given, Value.isEmpty_text ht, if_neg Bool.false_ne_true]

/-- **A plain source is read as it was written.** -/
theorem ofValue_toValue (h : s.IsPlain) : ofValue s.toValue = .ok s := by
  cases h with
  | ofUrl name url token =>
    unfold ofUrl
    rcases Value.orNull_ofText? token with hv | ⟨t, ht, hv⟩ <;> rw [hv]
    · rfl
    · have hvalue : toValue { name := .text name, type := remoteType, url := .text url
                              token := .text t } = .object ([("name", .text name),
          ("type", remoteType)] ++ ("url", .text url) :: given "access_token" (.text t)) := rfl
      rw [hvalue, given_text _ ht]
      rfl
  | ofPath name path user =>
    unfold ofPath
    rcases Value.orNull_ofText? user with hv | ⟨t, ht, hv⟩ <;> rw [hv]
    · rfl
    · have hvalue : toValue { name := .text name, type := localType, path := .text path
                              user := .text t } = .object ([("name", .text name),
          ("type", localType)] ++ ("path", .text path) :: given "user_id" (.text t)) := rfl
      rw [hvalue, given_text _ ht]
      rfl

theorem isOfTexts_toValue (h : s.IsPlain) : Yaml.isOfTexts s.toValue = true := by
  have hgiven : ∀ key token,
      Yaml.isOfTexts (.object (given key (Value.ofText? token))) = true := by
    intro key token
    unfold given
    split_ifs with hempty
    · rfl
    · rcases token with _ | t
      · exact absurd rfl hempty
      · rfl
  cases h with
  | ofUrl name url token =>
    rw [toValue_ofUrl]
    exact hgiven "access_token" token
  | ofPath name path user =>
    rw [toValue_ofPath]
    exact hgiven "user_id" user

end Source

namespace Sources

variable {ν : Type} {h : Host ν} {ss ss' : Sources}

/-- **The sources are plain, and the default one is named or not set.** -/
structure IsPlain (ss : Sources) : Prop where
  all : ∀ s ∈ ss.all, s.IsPlain
  default : ∃ name : Option String, ss.default = (Value.ofText? name).orNull

/-! ### The document -/

theorem mapM_ofValue (h : ∀ s ∈ ss.all, s.IsPlain) :
    (ss.all.map Source.toValue).mapM Source.ofValue = .ok ss.all := by
  have hread : ∀ s ∈ ss.all, Source.ofValue s.toValue = .ok s := fun s hs =>
    Source.ofValue_toValue (h s hs)
  have hsame : ss.all.mapM (Source.ofValue ∘ Source.toValue) =
      ss.all.mapM fun s => (.ok s : Except Failure Source) := mapM_congr hread
  rw [List.mapM_map, hsame, mapM_ok, List.map_id']

theorem areOfTexts_map {l : List Source} (h : ∀ s ∈ l, s.IsPlain) :
    Yaml.areOfTexts (l.map Source.toValue) = true := by
  induction l with
  | nil => rfl
  | cons s l ih =>
    have hs := Source.isOfTexts_toValue (h s List.mem_cons_self)
    have hl := ih fun t ht => h t (List.mem_cons_of_mem s ht)
    exact Bool.and_eq_true_iff.mpr ⟨hs, hl⟩

/-- The entry of the default source, if one is named. -/
theorem IsPlain.default_eq (h : ss.IsPlain) :
    ss.default = .null ∨ ∃ name, ss.default = .text name ∧
      (Value.text name).isEmpty = false := by
  obtain ⟨name, hname⟩ := h.default
  rcases Value.orNull_ofText? name with hv | ⟨t, ht, hv⟩
  · exact Or.inl (hname.trans hv)
  · exact Or.inr ⟨t, hname.trans hv, Value.isEmpty_text ht⟩

/-- **Plain sources are read as they were written.** -/
theorem ofValue_toEntries (h : ss.IsPlain) : ofValue (.map ss.toEntries) = .ok ss := by
  have hall := mapM_ofValue h.all
  have hdefault := h.default_eq
  obtain ⟨all, default⟩ := ss
  dsimp only at hall hdefault
  rcases all with _ | ⟨s, all⟩
  · rcases hdefault with rfl | ⟨name, rfl, hname⟩
    · rfl
    · have hentries : toEntries ⟨[], .text name⟩ = [(.text "default_source", .text name)] := by
        simp [toEntries, hname]
      rw [hentries]
      rfl
  · have hentries : ∃ entries, toEntries ⟨s :: all, default⟩ =
        (.text "sources", .list ((s :: all).map Source.toValue)) :: entries ∧
          ((Value.map entries).get? "default_source").getD .null = default := by
      rcases hdefault with rfl | ⟨name, rfl, hname⟩
      · exact ⟨[], rfl, rfl⟩
      · exact ⟨[(.text "default_source", .text name)], by simp [toEntries, hname], rfl⟩
    obtain ⟨entries, he, hd⟩ := hentries
    rw [he]
    show (do
      let all ← ((s :: all).map Source.toValue).mapM Source.ofValue
      return (⟨all, ((Value.map entries).get? "default_source").getD .null⟩ : Sources)) = _
    rw [hall, hd]
    rfl

theorem entriesOfTexts_toEntries (h : ss.IsPlain) :
    Yaml.entriesOfTexts ss.toEntries = true := by
  have hall := areOfTexts_map h.all
  have hdefault : Yaml.entriesOfTexts (if ss.default.isEmpty then []
      else [(.text "default_source", ss.default)]) = true := by
    rcases h.default_eq with hd | ⟨name, hd, hname⟩
    · rw [hd]
      rfl
    · rw [hd, hname]
      rfl
  unfold toEntries
  rcases hempty : ss.all.isEmpty
  · exact Bool.and_eq_true_iff.mpr ⟨hall, hdefault⟩
  · exact hdefault

/-- What counts as missing makes no difference to the document. -/
theorem toEntries_congr (hall : ss.all.map Source.toValue = ss'.all.map Source.toValue)
    (hdefault : ss.default.orNull = ss'.default.orNull) : ss.toEntries = ss'.toEntries := by
  have hnone : ss.all.isEmpty = ss'.all.isEmpty := by
    have hmap := congrArg List.isEmpty hall
    rwa [List.isEmpty_map, List.isEmpty_map] at hmap
  have hempty : ss.default.isEmpty = ss'.default.isEmpty := by
    rw [← Value.isEmpty_orNull, hdefault, Value.isEmpty_orNull]
  rw [toEntries, toEntries, hnone, hall, hempty]
  rcases hv : ss'.default.isEmpty
  · have hsame : ss.default = ss'.default := by
      simpa [Value.orNull, hempty, hv] using hdefault
    rw [hsame]
  · rfl

/-! ### The file -/

/-- The file of the sources of a host. -/
def fileIn (h : Host ν) : Path := (directoryIn h).child "config.yaml"

theorem outcome_file :
    (file : Action (Host ν) Path).outcome h = (.ok (fileIn h), h) := rfl

theorem outcome_exist : (exist : Action (Host ν) Bool).outcome h =
    (h.tree.exists? h.directory (fileIn h), h) := rfl

/-- The sources in a file; without the file there are none. -/
def readFrom (t : Tree) (cwd p : Path) : Except Failure Sources := do
  if ← t.exists? cwd p then ofValue (← Yaml.read (← t.text cwd p)) else .ok {}

theorem outcome_load : (load : Action (Host ν) Sources).outcome h =
    (readFrom h.tree h.directory (fileIn h), h) := by
  rw [load, outcome_bind_ok outcome_file]
  exact Yaml.outcome_loadOr ofValue {} (fileIn h)

theorem isRead_file : (file : Action (Host ν) Path).IsRead := fun _ => rfl

theorem isRead_exist : (exist : Action (Host ν) Bool).IsRead := fun _ => rfl

theorem isRead_load : (load : Action (Host ν) Sources).IsRead := fun h => by rw [outcome_load]

/-- Without the file there are no sources. -/
theorem outcome_load_of_exist (he : (exist : Action (Host ν) Bool).outcome h = (.ok false, h)) :
    (load : Action (Host ν) Sources).outcome h = (.ok {}, h) := by
  have hexists := (Prod.mk.inj (outcome_exist.symm.trans he)).1
  rw [outcome_load, readFrom, hexists]
  rfl

/-! ### Hosts with and without sources -/

/-- **The host has no file of sources**, and none comes to light when its directory is made. A path
may lead through a directory that is missing and back. -/
structure AreMissing (h : Host ν) : Prop where
  file : h.tree.exists? h.directory (fileIn h) = .ok false
  made : (h.tree.makePath h.directory (directoryIn h)).2.exists? h.directory
    (fileIn h) = .ok false

/-- **The document of the sources is in the file**, and the directories on the way to it are
there. -/
structure AreKept (ss : Sources) (h : Host ν) : Prop where
  directory : h.tree.makePath h.directory (directoryIn h) = (.ok (), h.tree)
  file : ∃ place, h.tree.filePlace h.directory (fileIn h) = .ok place ∧
    h.tree.node? place = some (.file (Yaml.write ss.toEntries))

/-- The directories on the way to the file are there or can be made, and then the file can be
written. -/
def CanBeKept (h : Host ν) : Prop :=
  ∃ t place, h.tree.makePath h.directory (directoryIn h) = (.ok (), t) ∧
    t.filePlace h.directory (fileIn h) = .ok place

theorem AreKept.canBeKept (hk : ss.AreKept h) : CanBeKept h := by
  obtain ⟨place, hplace, -⟩ := hk.file
  exact ⟨h.tree, place, hk.directory, hplace⟩

theorem AreMissing.outcome_load (hm : AreMissing h) :
    (load : Action (Host ν) Sources).outcome h = (.ok {}, h) :=
  outcome_load_of_exist (by rw [outcome_exist, hm.file])

/-- Sources that are kept are read, if this holds of their document. -/
theorem AreKept.outcome_load (hk : ss.AreKept h) (hplain : ss.IsPlain)
    (hyaml : Yaml.read (Yaml.write ss.toEntries) = .ok (.map ss.toEntries)) :
    (load : Action (Host ν) Sources).outcome h = (.ok ss, h) := by
  obtain ⟨place, hplace, hnode⟩ := hk.file
  have hread : readFrom h.tree h.directory (fileIn h) = ofValue (.map ss.toEntries) :=
    Yaml.readOr_written (entriesOfTexts_toEntries hplain) hplace hnode hyaml ofValue {}
  rw [Sources.outcome_load, hread, ofValue_toEntries hplain]

/-- Only the document counts. -/
theorem AreKept.of_toEntries (hk : ss.AreKept h) (he : ss.toEntries = ss'.toEntries) :
    ss'.AreKept h :=
  ⟨hk.directory, he ▸ hk.file⟩

section Save
variable {t : Tree}

theorem outcome_directory : (directory : Action (Host ν) Path).outcome h =
    (.ok (directoryIn h), h) := rfl

theorem outcome_save_error {e : Failure}
    (hr : h.tree.makePath h.directory (directoryIn h) = (.error e, t)) :
    ss.save.outcome h = (.error e, { h with tree := t }) := by
  rw [save, outcome_bind_ok outcome_directory, outcome_bind_error (Host.outcome_makePath_of hr)]

theorem outcome_save_made (hs : Yaml.entriesOfTexts ss.toEntries = true)
    (hr : h.tree.makePath h.directory (directoryIn h) = (.ok (), t)) :
    ss.save.outcome h = (Host.writeFile (fileIn h) (Yaml.write ss.toEntries)).outcome
      { h with tree := t } := by
  rw [save, outcome_bind_ok outcome_directory, outcome_bind_ok (Host.outcome_makePath_of hr),
    outcome_bind_ok outcome_file, Yaml.outcome_save hs]
  rfl

end Save

/-- A document that is written is in its file, and the directories are still there. -/
theorem areKept_put {t : Tree} {place : List String}
    (hmade : t.makePath h.directory (directoryIn h) = (.ok (), t))
    (hplace : t.filePlace h.directory (fileIn h) = .ok place) :
    ss.AreKept { h with tree := Tree.put place (.file (Yaml.write ss.toEntries)) t } := by
  obtain ⟨-, -, hold⟩ := Tree.filePlace_eq_ok hplace
  exact ⟨Tree.makePath_put hold hmade, place, Tree.filePlace_put hplace⟩

/-- **Where sources can be kept, they are.** -/
theorem CanBeKept.outcome_save (hc : CanBeKept h) (hs : Yaml.entriesOfTexts ss.toEntries = true) :
    ∃ t, ss.save.outcome h = (.ok (), { h with tree := t }) ∧ ss.AreKept { h with tree := t } := by
  obtain ⟨t, place, hr, hp⟩ := hc
  -- the directories that were made once are found from then on
  refine ⟨_, ?_, areKept_put (Tree.makePath_again hr) hp⟩
  rw [outcome_save_made hs hr]
  exact Host.outcome_writeFile hp

/-- **Where they cannot, nothing is kept**, and there are still none. -/
theorem AreMissing.outcome_save (hm : AreMissing h) (hc : ¬ CanBeKept h)
    (hs : Yaml.entriesOfTexts ss.toEntries = true) :
    ∃ e t, ss.save.outcome h = (.error e, { h with tree := t }) ∧
      AreMissing { h with tree := t } := by
  have hmade := hm.made
  rcases hr : h.tree.makePath h.directory (directoryIn h) with ⟨r, t⟩
  rw [hr] at hmade
  have hagain : (t.makePath h.directory (directoryIn h)).2.exists? h.directory (fileIn h) =
      .ok false := by
    rw [Tree.makePath_again hr]
    exact hmade
  have hmissing : AreMissing { h with tree := t } := ⟨hmade, hagain⟩
  rcases r with e | ⟨⟩
  · exact ⟨e, t, outcome_save_error hr, hmissing⟩
  · rcases hp : t.filePlace h.directory (fileIn h) with e | place
    · refine ⟨e, t, ?_, hmissing⟩
      rw [outcome_save_made hs hr]
      exact Host.outcome_writeFile_error hp
    · exact absurd ⟨t, place, hr, hp⟩ hc

end Sources

end PairChat
