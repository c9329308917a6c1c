import PairChat.Proofs.Repositories

/-!
# Ignored files: what is added to the list of a repository

The list of ignored files is read with every line end as a line feed, and the store is added at the
end of the text as it is.

* `Text.joinBreaks_append`, `Text.linesFrom_append`: how texts after one another are read, and that
  a new line begins after a line feed.
* `Discovery.readLines_added`: **the store is on a line of its own after what was there.**
* `Discovery.ensureIgnored_exact`: so a call changes nothing but the list of the repository around
  the store, and nothing at all if the store is named there already (`Discovery.IgnoresStore`).
-/

namespace PairChat

open PairChat.Action
open Files (Path Tree)

/-! ### Lines -/

namespace Text

variable {cs ds : List Char}

theorem joinBreaks_return (h : ¬ ['\n'] <+: cs) :
    joinBreaks ('\r' :: cs) = '\n' :: joinBreaks cs := by
  rw [joinBreaks]
  rintro cs' rfl
  exact h ⟨cs', rfl⟩

theorem joinBreaks_cons {c : Char} (h : c ≠ '\r') : joinBreaks (c :: cs) = c :: joinBreaks cs := by
  rw [joinBreaks]
  · exact fun _ e => absurd e h
  · exact h

/-- Texts are read one after the other, unless a line end of two characters is between them. -/
theorem joinBreaks_append (hcut : ['\r'] <:+ cs → ¬ ['\n'] <+: ds) :
    joinBreaks (cs ++ ds) = joinBreaks cs ++ joinBreaks ds := by
  induction cs using joinBreaks.induct with
  | case1 => rfl
  | case2 cs ih =>
    have hrest := ih fun h => hcut (h.trans (List.suffix_append ['\r', '\n'] cs))
    exact congrArg (List.cons '\n') hrest
  | case3 cs hcs ih =>
    have hrest := ih fun h => hcut (h.trans (List.suffix_cons '\r' cs))
    have hcs' : ¬ ['\n'] <+: cs := fun ⟨cs', e⟩ => hcs cs' e.symm
    have happend : ¬ ['\n'] <+: cs ++ ds := by
      rcases cs with _ | ⟨c, cs⟩
      · exact hcut List.suffix_rfl
      · simpa using hcs'
    rw [List.cons_append, joinBreaks_return happend, joinBreaks_return hcs', hrest]
    rfl
  | case4 c cs _ hc ih =>
    have hrest := ih fun h => hcut (h.trans (List.suffix_cons c cs))
    rw [List.cons_append, joinBreaks_cons hc, joinBreaks_cons hc, hrest]
    rfl

/-- What ends with a carriage return is read as ending with a line feed. -/
theorem joinBreaks_concat_return : joinBreaks (cs ++ ['\r']) = joinBreaks cs ++ ['\n'] :=
  joinBreaks_append fun _ => by decide

/-- What was read has no carriage return. -/
theorem not_mem_joinBreaks (cs : List Char) : '\r' ∉ joinBreaks cs := by
  induction cs using joinBreaks.induct with
  | case1 => exact List.not_mem_nil
  | case2 cs ih => exact List.not_mem_cons_of_ne_of_not_mem (by decide) ih
  | case3 cs hcs ih =>
    rw [joinBreaks_return fun ⟨cs', e⟩ => hcs cs' e.symm]
    exact List.not_mem_cons_of_ne_of_not_mem (by decide) ih
  | case4 c cs _ hc ih =>
    rw [joinBreaks_cons hc]
    exact List.not_mem_cons_of_ne_of_not_mem (Ne.symm hc) ih

theorem linesFrom_cons {c : Char} (line : List Char) (hc : c ≠ '\r') : linesFrom line (c :: cs) =
    if isLineBreak c then line.reverse :: linesFrom [] cs else linesFrom (c :: line) cs := by
  rw [linesFrom]
  exact fun _ e => absurd e hc

/-- **After a line feed a new line begins.** -/
theorem linesFrom_append (line ds : List Char) (hcs : '\r' ∉ cs) :
    linesFrom line (cs ++ '\n' :: ds) = linesFrom line (cs ++ ['\n']) ++ linesFrom [] ds := by
  induction cs generalizing line with
  | nil => rfl
  | cons c cs ih =>
    rw [List.mem_cons, not_or] at hcs
    rw [List.cons_append, List.cons_append, linesFrom_cons line (Ne.symm hcs.1),
      linesFrom_cons line (Ne.symm hcs.1), ih [] hcs.2, ih (c :: line) hcs.2]
    split_ifs <;> rfl

/-- A line feed at the end takes no line away. -/
theorem isPrefix_linesFrom (line : List Char) (hcs : '\r' ∉ cs) :
    linesFrom line cs <+: linesFrom line (cs ++ ['\n']) := by
  induction cs generalizing line with
  | nil =>
    show (if line.isEmpty then [] else [line.reverse]) <+: [line.reverse]
    split_ifs
    · exact List.nil_prefix
    · exact List.prefix_rfl
  | cons c cs ih =>
    rw [List.mem_cons, not_or] at hcs
    rw [List.cons_append, linesFrom_cons line (Ne.symm hcs.1), linesFrom_cons line (Ne.symm hcs.1)]
    split_ifs
    · exact List.cons_prefix_cons.mpr ⟨rfl, ih [] hcs.2⟩
    · exact ih (c :: line) hcs.2

end Text

namespace Discovery

/-! ### What is added -/

/-- The text of a file as it is read. -/
def readText (text : String) : String := String.ofList (Text.joinBreaks text.toList)

/-- The lines of a file as it is read. -/
def readLines (text : String) : List (List Char) := Text.lines (Text.joinBreaks text.toList)

theorem isIgnored_readText_iff {text : String} : isIgnored (readText text) = true ↔
    ∃ line ∈ readLines text, Text.stripBy (· == '/') (Text.strip line) = directoryName.toList := by
  simp [isIgnored, readText, readLines, namesStore]

theorem endsWith_feed_iff {cs : List Char} :
    (String.ofList cs).endsWith "\n" = true ↔ ['\n'] <:+ cs := by
  rw [String.endsWith_eq_endsWith_toSlice, String.Slice.endsWith_string_iff]
  simp

/-- The line that is added. -/
def ignoredEntry : List Char := (directoryName ++ "/").toList

theorem stripped_ignoredEntry :
    Text.stripBy (· == '/') (Text.strip ignoredEntry) = directoryName.toList := by decide

theorem lines_ignoreLine : Text.lines ignoreLine.toList = [ignoredEntry] := by
  decide

theorem joinBreaks_ignoreLine : Text.joinBreaks ignoreLine.toList = ignoreLine.toList := by
  decide

theorem lines_append_ignoreLine {cs : List Char} (hreturn : '\r' ∉ cs)
    (hends : cs = [] ∨ ['\n'] <:+ cs) :
    Text.lines (cs ++ ignoreLine.toList) = Text.lines cs ++ [ignoredEntry] := by
  rcases hends with rfl | ⟨ds, rfl⟩
  · exact lines_ignoreLine
  · have hds : '\r' ∉ ds := fun h => hreturn (List.mem_append_left _ h)
    rw [List.append_assoc, List.singleton_append, Text.lines, Text.linesFrom_append [] _ hds]
    exact congrArg _ lines_ignoreLine

/-- **The store is on a line of its own after what was there**, and no line is changed. -/
theorem readLines_added (text : String) :
    ∃ before, readLines (text ++ ignoreAddition (readText text)) = before ++ [ignoredEntry] ∧
      readLines text <+: before := by
  have hreturn := Text.not_mem_joinBreaks text.toList
  unfold readLines ignoreAddition
  split_ifs with hgap
  · -- nothing stands between what was there and the line
    have hends : Text.joinBreaks text.toList = [] ∨ ['\n'] <:+ Text.joinBreaks text.toList := by
      rw [Bool.or_eq_true, readText, endsWith_feed_iff, String.isEmpty_iff,
        String.ofList_eq_empty_iff] at hgap
      exact hgap
    refine ⟨_, ?_, List.prefix_rfl⟩
    rw [String.empty_append, String.toList_append, Text.joinBreaks_append fun _ => by decide,
      joinBreaks_ignoreLine, lines_append_ignoreLine hreturn hends]
  · -- the last line is ended first, and the line feed belongs to no other line end
    have hcut : ¬ ['\r'] <:+ text.toList := by
      rintro ⟨cs, hcs⟩
      refine hgap (Bool.or_eq_true_iff.mpr (.inr ?_))
      rw [readText, endsWith_feed_iff, ← hcs, Text.joinBreaks_concat_return]
      exact List.suffix_append _ _
    have hreturn' : '\r' ∉ Text.joinBreaks text.toList ++ ['\n'] := by simpa using hreturn
    refine ⟨_, ?_, Text.isPrefix_linesFrom [] hreturn⟩
    rw [String.toList_append, Text.joinBreaks_append fun h => absurd h hcut, String.toList_append,
      Text.joinBreaks_append fun _ => by decide, joinBreaks_ignoreLine, ← List.append_assoc]
    exact lines_append_ignoreLine hreturn' (.inr (List.suffix_append _ _))

/-! ### What a call does -/

variable {ν : Type} {h : Host ν} {store p : Path} {place root : List String} {name : String}
  {old : Option String}

section AtRoot
variable (hr : (repositoryRoot store.parent).outcome h = (.ok (some ⟨"/", root⟩), h))
include hr

/-- A list that is refused as too long is not read. -/
theorem outcome_ensureIgnored_of_tooLong
    (hf : Path.fault? ⟨"/", root ++ [".gitignore"]⟩ = none)
    (hlong : h.tree.placeOf h.directory ⟨"/", root ++ [".gitignore"]⟩ = .error .tooLong) :
    (ensureIgnored store).outcome h =
      (.error (.file .tooLong (Path.toText ⟨"/", root ++ [".gitignore"]⟩)), h) := by
  have hfound : (Host.exists? (Path.child ⟨"/", root⟩ ".gitignore")).outcome h =
      (.error (.file .tooLong (Path.toText ⟨"/", root ++ [".gitignore"]⟩)), h) :=
    Prod.ext (Tree.exists?_of_tooLong hf hlong) rfl
  rw [ensureIgnored, outcome_bind_ok hr]
  exact outcome_bind_error hfound

variable
  (hp : h.tree.filePlace h.directory ⟨"/", root ++ [".gitignore"]⟩ = .ok place)
  (hold : h.tree.node? place = old.map .file)
include hp hold

/-- The list of ignored files at the root of a repository is read, if it is there. -/
theorem outcome_ensureIgnored : (ensureIgnored store).outcome h = (do
    if isIgnored (readText (old.getD "")) then return false
    Host.appendFile ⟨"/", root ++ [".gitignore"]⟩ (ignoreAddition (readText (old.getD "")))
    return true : Action (Host ν) Bool).outcome h := by
  obtain ⟨hf, hplace, -⟩ := Tree.filePlace_eq_ok hp
  have hfound : (Host.exists? (Path.child ⟨"/", root⟩ ".gitignore")).outcome h =
      (.ok old.isSome, h) := by
    rw [Host.outcome_exists?, Tree.exists?, Tree.lookUp]
    simp [Path.child, hf, hplace, hold, Except.map]
  rw [ensureIgnored, outcome_bind_ok hr]
  dsimp only
  rw [outcome_bind_ok hfound]
  rcases old with _ | text
  · rfl
  · have htext : h.tree.text h.directory ⟨"/", root ++ [".gitignore"]⟩ = .ok (readText text) := by
      simp only [Tree.text, hp, bind, Except.bind, hold, Option.map_some]
      rfl
    have hread : (Host.textAt (Path.child ⟨"/", root⟩ ".gitignore")).outcome h =
        (.ok (readText text), h) := Prod.ext htext rfl
    simp only [Option.isSome_some, if_true]
    rw [outcome_bind_ok hread]
    rfl

/-- A list that names the store is left as it is. -/
theorem outcome_ensureIgnored_of_ignored (hi : isIgnored (readText (old.getD "")) = true) :
    (ensureIgnored store).outcome h = (.ok false, h) := by
  rw [outcome_ensureIgnored hr hp hold, if_pos hi]
  rfl

/-- The store is added to any other list, or to a new one. -/
theorem outcome_ensureIgnored_of_added (hi : ¬ isIgnored (readText (old.getD "")) = true) :
    (ensureIgnored store).outcome h = (.ok true, { h with
      tree := h.tree.put place
        (.file (old.getD "" ++ ignoreAddition (readText (old.getD "")))) }) := by
  rw [outcome_ensureIgnored hr hp hold, if_neg hi,
    outcome_bind_ok (Host.outcome_appendFile hp hold)]
  rfl

end AtRoot

/-- **What a call leaves of a list of ignored files**, which may be missing. The answer says whether
it was changed, and nothing but one line is added, on a line of its own; then the store is named. -/
structure IgnoresStore (old new : Option String) (changed : Bool) : Prop where
  changed_iff : changed = true ↔ new ≠ old
  added : changed = true → (∃ gap ∈ ["", "\n"], new = some (old.getD "" ++ (gap ++ ignoreLine))) ∧
    ∃ before, readLines (new.getD "") = before ++ [ignoredEntry] ∧
      readLines (old.getD "") <+: before
  named : ∃ text, new = some text ∧ ∃ line ∈ readLines text,
    Text.stripBy (· == '/') (Text.strip line) = directoryName.toList

theorem IgnoresStore.isIgnored {old new : Option String} {changed : Bool}
    (hi : IgnoresStore old new changed) : isIgnored (readText (new.getD "")) = true := by
  obtain ⟨text, rfl, hline⟩ := hi.named
  exact isIgnored_readText_iff.mpr hline

theorem ignoresStore_of_ignored (hi : isIgnored (readText (old.getD "")) = true) :
    IgnoresStore old old false where
  changed_iff := by simp
  added := nofun
  named := by
    rcases old with _ | text
    · exact absurd hi (by decide)
    · exact ⟨text, rfl, isIgnored_readText_iff.mp hi⟩

theorem exists_ignoreAddition_eq (text : String) :
    ∃ gap ∈ ["", "\n"], ignoreAddition text = gap ++ ignoreLine := by
  unfold ignoreAddition
  split_ifs
  · exact ⟨"", by simp, rfl⟩
  · exact ⟨"\n", by simp, rfl⟩

theorem ignoresStore_of_added (old : Option String) :
    IgnoresStore old (some (old.getD "" ++ ignoreAddition (readText (old.getD "")))) true where
  changed_iff := by
    refine iff_of_true rfl ?_
    rcases old with _ | text
    · nofun
    · obtain ⟨gap, -, hgap⟩ := exists_ignoreAddition_eq (readText text)
      have hline : ignoreLine.length = 14 := by decide
      intro he
      have hlength := congrArg String.length (Option.some.inj he)
      rw [Option.getD_some, hgap, String.length_append, String.length_append] at hlength
      omega
  added _ := by
    obtain ⟨gap, hmem, hgap⟩ := exists_ignoreAddition_eq (readText (old.getD ""))
    exact ⟨⟨gap, hmem, by rw [hgap]⟩, readLines_added _⟩
  named := by
    obtain ⟨before, hlines, -⟩ := readLines_added (old.getD "")
    refine ⟨_, rfl, ignoredEntry, ?_, stripped_ignoredEntry⟩
    rw [hlines]
    exact List.mem_append_right _ (List.mem_singleton_self _)

/-- The root of a repository is found again after a file of another name was put. -/
theorem repositoryRoot_put (text : String) {r : Option Path} (hname : name ≠ ".git")
    (hold : h.tree.node? (root ++ [name]) ≠ some .directory)
    (hr : (repositoryRoot p).outcome h = (.ok r, h)) :
    (repositoryRoot p).outcome { h with tree := h.tree.put (root ++ [name]) (.file text) } =
      (.ok r, { h with tree := h.tree.put (root ++ [name]) (.file text) }) := by
  have hsame : Tree.SameBut (· = root ++ [name]) h.tree
      (h.tree.put (root ++ [name]) (.file text)) := Tree.sameBut_put hold (by simp)
  have hlook : ∀ q : Path, h.tree.exists? h.directory (q.child ".git") =
      (h.tree.put (root ++ [name]) (.file text)).exists? h.directory (q.child ".git") := by
    intro q
    refine hsame.exists?_eq fun he => ?_
    rw [Store.Directory.resolveNames_child _ _ (by decide)] at he
    exact hname (List.cons.inj (List.append_inj' he rfl).2).1.symm
  have hfst := @fst_repositoryRoot_congr ν h
    { h with tree := h.tree.put (root ++ [name]) (.file text) } hlook rfl p
  exact (isRead_repositoryRoot p).outcome_eq (by rw [← hfst, hr])

/-- What a call leaves of the files at the root of a repository. -/
theorem exists_ensureIgnored (hdots : ".." ∉ root ++ [".gitignore"]) (hg : h.tree.IsGrounded)
    (hroot : h.tree.node? root = some .directory)
    (hr : (repositoryRoot store.parent).outcome h = (.ok (some ⟨"/", root⟩), h))
    (hold : h.tree.node? (root ++ [".gitignore"]) = old.map .file)
    (hl : h.tree.CanLookUp h.directory ⟨"/", root ++ [".gitignore"]⟩) :
    ∃ changed new t, (ensureIgnored store).outcome h = (.ok changed, { h with tree := t }) ∧
      IgnoresStore old new changed ∧ t.node? (root ++ [".gitignore"]) = new.map .file ∧
      (∀ place, place ≠ root ++ [".gitignore"] → t.node? place = h.tree.node? place) ∧
      (changed = false → t = h.tree) ∧
      (ensureIgnored store).outcome { h with tree := t } = (.ok false, { h with tree := t }) := by
  have hfile : h.tree.node? (root ++ [".gitignore"]) ≠ some .directory := by
    rw [hold]
    cases old <;> simp
  have hp := Tree.filePlace_root hg hdots hroot hfile hl
  by_cases hi : isIgnored (readText (old.getD "")) = true
  · have hdone := outcome_ensureIgnored_of_ignored hr hp hold hi
    exact ⟨false, old, h.tree, hdone, ignoresStore_of_ignored hi, hold, fun _ _ => rfl,
      fun _ => rfl, hdone⟩
  · have hnew := ignoresStore_of_added old
    have hdone := outcome_ensureIgnored_of_added hr hp hold hi
    refine ⟨true, _, _, hdone, hnew, (Tree.filePlace_put hp).2, fun place hplace => ?_, nofun, ?_⟩
    · rw [Tree.node?_put (by simp), if_neg hplace]
    · have hr' := repositoryRoot_put (old.getD "" ++ ignoreAddition (readText (old.getD "")))
        (by decide) hfile hr
      exact outcome_ensureIgnored_of_ignored hr' (Tree.filePlace_put hp).1 (Tree.filePlace_put hp).2
        hnew.isIgnored

/-- **The store is added to the list of its repository, once and for all.** A call fails only if a
path is refused, and then it changes nothing.  Outside of repositories it changes nothing either.
In one, it changes no other file, and what it leaves of the list names the store
(`IgnoresStore`), so that another call changes nothing. -/
theorem ensureIgnored_exact (hg : h.tree.IsGrounded) (store : Path) :
    let q := h.directory.resolve store.parent
    (∀ e, store.parent.fault? = some e → (ensureIgnored store).outcome h = (.error e, h)) ∧
    (store.parent.fault? = none → (q.child ".git").fault? = none →
      h.tree.placeOf h.directory (q.child ".git") = .error .tooLong →
      (ensureIgnored store).outcome h = (.error (.file .tooLong (q.child ".git").toText), h)) ∧
    (store.parent.fault? = none → h.tree.CanLookUp h.directory (q.child ".git") →
      ((∀ place, place <+: q.names → h.tree.node? (place ++ [".git"]) = none) →
        (ensureIgnored store).outcome h = (.ok false, h)) ∧
      ∀ root, h.tree.IsInnermost ".git" q.names root →
        let list : Path := ⟨"/", root ++ [".gitignore"]⟩
        (h.tree.placeOf h.directory list = .error .tooLong →
          (ensureIgnored store).outcome h = (.error (.file .tooLong list.toText), h)) ∧
        ∀ old : Option String, h.tree.node? list.names = old.map .file →
          h.tree.CanLookUp h.directory list →
          ∃ changed new t, (ensureIgnored store).outcome h = (.ok changed, { h with tree := t }) ∧
            IgnoresStore old new changed ∧ t.node? list.names = new.map .file ∧
            (∀ place, place ≠ list.names → t.node? place = h.tree.node? place) ∧
            (changed = false → t = h.tree) ∧
            (ensureIgnored store).outcome { h with tree := t } =
              (.ok false, { h with tree := t })) := by
  refine ⟨fun e he => outcome_bind_error (repositoryRoot_of_fault he), fun hp hq hlong =>
    outcome_bind_error (repositoryRoot_of_tooLong hp hq hlong), fun hp hl => ?_⟩
  obtain ⟨r, hr, hnearest⟩ := repositoryRoot_of_canLookUp hg hp hl
  constructor
  · intro hnone
    rw [hnearest.eq_none_iff.mpr hnone] at hr
    exact outcome_bind_ok hr
  · intro root hroot
    rw [hnearest.eq_some_iff.mpr hroot] at hr
    constructor
    · have hfault : Path.fault? ⟨"/", root⟩ = none :=
        Path.fault?_root_mono hl.1 fun n hn => List.mem_append_left _ (hroot.above.subset hn)
      exact outcome_ensureIgnored_of_tooLong hr (Path.fault?_root_concat hfault (by decide))
    · intro old hold hlist
      have hdots : ".." ∉ root ++ [".gitignore"] := by
        rw [List.mem_append, not_or]
        exact ⟨fun hn => Path.not_mem_resolveNames _ (hroot.above.subset hn), by decide⟩
      exact exists_ensureIgnored hdots hg (hg _ _ hroot.stands) hr hold hlist

/-- A host with a repository that has a list of ignored files. -/
def listHost (text : String) : Host Unit :=
  { gitHost with tree := gitHost.tree.put ["work", ".gitignore"] (.file text) }

/-- The last line of a list is ended before the store is added, and the store is added once. -/
theorem ensureIgnored_exact_open :
    let store : Path := ⟨"/", ["work", "src", ".directchats"]⟩
    let added := listHost "*.pyc\n.directchats/\n"
    (listHost "*.pyc").tree.IsGrounded ∧
      (ensureIgnored store).outcome (listHost "*.pyc") = (.ok true, added) ∧
      IgnoresStore (some "*.pyc") (some "*.pyc\n.directchats/\n") true ∧
      (ensureIgnored store).outcome added = (.ok false, added) := by
  intro store added
  have hg : (listHost "*.pyc").tree.IsGrounded := Tree.isGrounded_of_forall (by decide)
  have hroots := (ensureIgnored_exact hg store).2.2 (by decide +kernel)
    (by constructor <;> decide +kernel)
  obtain ⟨changed, new, t, hdone, hnew, hfile, -, -, hagain⟩ :=
    (hroots.2 ["work"] (by decide)).2 (some "*.pyc") rfl (by constructor <;> decide +kernel)
  have heval : ((ensureIgnored store).outcome (listHost "*.pyc")).1 = .ok true ∧
      ((ensureIgnored store).outcome (listHost "*.pyc")).2.tree = added.tree := by
    decide +kernel
  rw [hdone] at heval
  obtain ⟨hchanged, rfl⟩ := heval
  obtain rfl := Except.ok.inj hchanged
  have htext : new = some "*.pyc\n.directchats/\n" := by
    rcases new with _ | text
    · cases hfile
    · exact congrArg some (Files.Node.file.inj (Option.some.inj hfile)).symm
  exact ⟨hg, hdone, htext ▸ hnew, hagain⟩

/-- A store in a path with a null character is refused, although there is a repository around it. -/
theorem refused_store :
    let store := Path.ofText "a\x00/b"
    gitHost.tree.IsGrounded ∧
      gitHost.tree.IsInnermost ".git" (gitHost.directory.resolve store.parent).names ["work"] ∧
      gitHost.tree.node? ["work", ".gitignore"] = none ∧
      (ensureIgnored store).outcome gitHost = (.error (.shape .value), gitHost) := by
  intro store
  refine ⟨isGrounded_gitHost.tree, by decide, by decide, outcome_bind_error ?_⟩
  exact (isRead_repositoryRoot store.parent).outcome_eq (by decide +kernel)

end Discovery

end PairChat
