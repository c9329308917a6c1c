import PairChat.CommandLine.Report
import PairChat.Proofs.SourceChanges
import Mathlib.Data.List.Infix

/-!
# Source commands: how the sources of a host come about

A command that changes the sources reads them all, changes them and writes them all again.  What it
asks for is a change of the sources (`Command.change?`).

* `Command.run_cases`: it makes that change if it is in order, and else ends with the status one.
* `Sources.AreMadeBy changes`: what a host keeps after some changes.  One command leads from there
  to what it keeps after one more change, or fails (`Command.next_cases`).
* `source_commands_consistent`: **after all commands the sources are consistent**, and a command
  that fails leaves the file as it was.
-/

namespace PairChat

open PairChat.Action
open Files (Path Tree Node)

namespace CommandLine

/-- The status that a run ends with. It is one, too, if no report is made of a failure. -/
def exitStatus : Except Failure Report → Nat
  | .ok report => report.status
  | .error _ => 1

namespace Command

/-- The command adds a source, removes one, or chooses the default one. -/
def ChangesSources : Command → Prop
  | .addSource .. | .removeSource _ | .defaultSource (some _) => True
  | _ => False

/-- The source that is to be added. The path of a store is seen from a directory. -/
def givenSource (cwd : Path) (name : String) (remote directory token user : Option String) :
    {s : Source // s.IsPlain} :=
  if isNamed remote then ⟨.ofUrl name (remote.getD "") token, .ofUrl ..⟩
  else
    let place := cwd.join (Path.ofText (directory.getD ""))
    ⟨.ofPath name place.toText user, .ofPath ..⟩

/-- **The change of the sources that a command asks for.** -/
def change? (cwd : Path) : Command → Option SourceChange
  | .addSource name remote directory token user isDefault =>
    some (.add (givenSource cwd name remote directory token user) isDefault)
  | .removeSource name => some (.remove name)
  | .defaultSource (some name) => some (.choose name)
  | _ => none

/-- The place of a new source is on a homeserver, or it can be looked up. -/
def IsReachable {ν : Type} (h : Host ν) (remote directory : Option String) : Prop :=
  isNamed remote = true ∨
    ∃ b, h.tree.exists? h.directory (Path.ofText (directory.getD "")) = .ok b

/-- **What a command asks for is in order.** A source is added in one place, and one that is removed
or chosen is there. -/
def IsInOrder {ν : Type} (ss : Sources) (h : Host ν) : Command → Prop
  | .addSource _ remote directory _ _ _ =>
    isNamed remote ≠ isNamed directory ∧ IsReachable h remote directory
  | .removeSource name | .defaultSource (some name) => ∃ s ∈ ss.all, s.name = .text name
  | _ => False

variable {ν : Type} {w : Web.Homeserver ν} {timeText : Nat → String} {h : Host ν} {ss : Sources}
  {c : Command} {change : SourceChange}

theorem ChangesSources.exists_change? (hc : c.ChangesSources) (cwd : Path) :
    ∃ change, c.change? cwd = some change := by
  cases c with
  | addSource name remote directory token user isDefault => exact ⟨_, rfl⟩
  | removeSource name => exact ⟨_, rfl⟩
  | defaultSource name =>
    cases name with
    | none => exact absurd hc id
    | some name => exact ⟨_, rfl⟩
  | _ => exact absurd hc id

/-! ### One command -/

section NewSource
variable {name : String} {remote directory token user : Option String}

theorem name_givenSource (cwd : Path) :
    (givenSource cwd name remote directory token user).val.name = .text name := by
  unfold givenSource
  split_ifs <;> rfl

theorem toValue_givenSource (cwd : Path) (hr : isNamed remote = true) :
    (givenSource cwd name remote directory token user).val.toValue =
      Source.toValue { name := .text name, type := Source.remoteType, url := .ofText? remote
                       token := .ofText? token } := by
  obtain ⟨url, rfl⟩ : ∃ url, remote = some url := by
    rcases remote with _ | url
    · cases hr
    · exact ⟨url, rfl⟩
  rw [givenSource, if_pos hr]
  exact Source.toValue_ofUrl name url token

/-- The source that a command makes is written like the one that was given: what is empty in it has
no entry. -/
theorem newSource_cases (h : Host ν) (name : String)
    (remote directory token user : Option String) :
    ¬ IsReachable h remote directory ∧
        (∃ e, (newSource name remote directory token user).outcome h = (.error e, h)) ∨
      IsReachable h remote directory ∧ ∃ s warning,
        (newSource name remote directory token user).outcome h = (.ok (s, warning), h) ∧
          s.name = .text name ∧
          s.toValue = (givenSource h.directory name remote directory token user).val.toValue := by
  unfold newSource
  split_ifs with hr
  · exact Or.inr ⟨Or.inl hr, _, _, rfl, rfl, (toValue_givenSource h.directory hr).symm⟩
  · dsimp only
    rw [outcome_bind, Host.outcome_exists?]
    rcases hb : h.tree.exists? h.directory (Path.ofText (directory.getD "")) with e | b
    · refine Or.inl ⟨?_, e, rfl⟩
      rintro (hr' | ⟨b, hb'⟩)
      · exact hr hr'
      · cases hb.symm.trans hb'
    · refine Or.inr ⟨Or.inr ⟨b, hb⟩, _, _, rfl, rfl, ?_⟩
      rw [givenSource, if_neg hr]
      exact (Source.toValue_ofPath name _ user).symm

end NewSource

/-- **What a command does, once the sources are read.** It fails and changes nothing, or it is in
order and keeps sources with the document of the changed ones; then it succeeds. -/
theorem run_cases (w : Web.Homeserver ν) (timeText : Nat → String)
    (hl : (Sources.load : Action (Host ν) Sources).outcome h = (.ok ss, h)) (hp : ss.IsPlain)
    (hc : c.change? h.directory = some change) :
    ¬ c.IsInOrder ss h ∧ (∃ r, (c.run w timeText).outcome h = (r, h) ∧ exitStatus r = 1) ∨
      c.IsInOrder ss h ∧ ∃ (ss' : Sources) (report : Report),
        ss'.toEntries = (ss.change change).toEntries ∧ report.status = 0 ∧
          (c.run w timeText).outcome h = (ss'.save >>= fun _ => pure report).outcome h := by
  cases c with
  | addSource name remote directory token user isDefault =>
    obtain rfl := Option.some.inj hc
    dsimp only [run, runAddSource, IsInOrder]
    -- a source is in one place: with both or none of them nothing is read
    by_cases hone : isNamed remote = isNamed directory
    · refine Or.inl ⟨fun hi => hi.1 hone, ?_⟩
      rw [hone]
      cases isNamed directory
      · exact ⟨_, rfl, rfl⟩
      · exact ⟨_, rfl, rfl⟩
    have hboth : ¬ (isNamed remote && isNamed directory) = true := by
      intro hboth
      rw [Bool.and_eq_true] at hboth
      exact hone (hboth.1.trans hboth.2.symm)
    have hnone : ¬ (!isNamed remote && !isNamed directory) = true := by
      intro hnone
      rw [Bool.and_eq_true, Bool.not_eq_true', Bool.not_eq_true'] at hnone
      exact hone (hnone.1.trans hnone.2.symm)
    rw [if_neg hboth, if_neg hnone, outcome_bind_ok hl]
    rcases newSource_cases h name remote directory token user with
      ⟨hno, e, hs⟩ | ⟨hyes, s, warning, hs, hname, hvalue⟩
    · rw [outcome_bind_error hs]
      exact Or.inl ⟨fun hi => hno hi.2, _, rfl, rfl⟩
    · have hentries := Sources.toEntries_add ss (hname.trans (name_givenSource _).symm) hvalue
        isDefault
      rw [hname] at hentries
      rw [outcome_bind_ok hs]
      exact Or.inr ⟨⟨hone, hyes⟩, _, _, hentries, rfl, rfl⟩
  | removeSource name =>
    obtain rfl := Option.some.inj hc
    have hfound := Sources.remove_found_iff hp name
    dsimp only [run, runRemoveSource, IsInOrder]
    rw [outcome_bind_ok hl, ← hfound]
    rcases hr : ss.remove (.text name) with ⟨ss', found⟩
    rcases found
    · exact Or.inl ⟨Bool.false_ne_true, _, rfl, rfl⟩
    · refine Or.inr ⟨rfl, ss', _, ?_, ?_, rfl⟩
      · rw [Sources.change, hr]
      · rfl
  | defaultSource name =>
    cases name with
    | none => cases hc
    | some name =>
      obtain rfl := Option.some.inj hc
      have hfound := Sources.find?_isSome_iff hp name
      dsimp only [run, runDefaultSource, IsInOrder]
      rw [outcome_bind_ok hl, ← hfound]
      rcases hf : ss.find? (.text name) with _ | s
      · exact Or.inl ⟨Bool.false_ne_true, _, rfl, rfl⟩
      · have hsome : (ss.find? (.text name)).isSome = true := by rw [hf]; rfl
        refine Or.inr ⟨rfl, { ss with default := .text name }, _, ?_, ?_, rfl⟩
        · exact Sources.toEntries_choose hsome
        · rfl
  | _ => cases hc

end Command

/-! ### Commands one after the other -/

section Runs
variable {ν : Type} (w : Web.Homeserver ν) (timeText : Nat → String)

/-- The status that a command ends with on a host. -/
def Command.status (c : Command) (h : Host ν) : Nat := exitStatus ((c.run w timeText).outcome h).1

/-- The host that a command leaves. -/
def Command.next (c : Command) (h : Host ν) : Host ν := ((c.run w timeText).outcome h).2

/-- The change that a command makes: what it asks for, if it succeeds. -/
def Command.made (c : Command) (h : Host ν) : List SourceChange :=
  if c.status w timeText h = 0 then (c.change? h.directory).toList else []

/-- The host that commands leave. -/
def after (h : Host ν) (commands : List Command) : Host ν :=
  commands.foldl (fun h c => c.next w timeText h) h

/-- **The changes that commands make**, in order. -/
def changesOf (h : Host ν) : List Command → List SourceChange
  | [] => []
  | c :: commands => c.made w timeText h ++ changesOf (c.next w timeText h) commands

variable {w timeText} {h : Host ν} {c : Command} {commands : List Command}
  {changes : List SourceChange} {change : SourceChange}

theorem after_concat (h : Host ν) (commands : List Command) (c : Command) :
    after w timeText h (commands ++ [c]) = c.next w timeText (after w timeText h commands) := by
  rw [after, List.foldl_append]
  rfl

theorem changesOf_concat (h : Host ν) (commands : List Command) (c : Command) :
    changesOf w timeText h (commands ++ [c]) =
      changesOf w timeText h commands ++ c.made w timeText (after w timeText h commands) := by
  induction commands generalizing h with
  | nil => exact List.append_nil _
  | cons d commands ih =>
    rw [List.cons_append, changesOf, changesOf, ih, List.append_assoc]
    rfl

end Runs

end CommandLine

/-! ### What is kept -/

namespace Sources

variable {ν : Type} {h : Host ν} {changes : List SourceChange}

/-- What a tree has in the place of the file of the sources. -/
def fileOn (h : Host ν) (t : Tree) : Except Failure (Option Node) :=
  t.lookUp h.directory (fileIn h)

/-- **The host keeps what changes make of no sources**: no file before the first change, and then
their document. -/
def AreMadeBy (changes : List SourceChange) (h : Host ν) : Prop :=
  changes = [] ∧ AreMissing h ∨ (ofChanges changes).AreKept h

/-- The document of the sources that changes make is read as it was written. -/
def IsReadBack (changes : List SourceChange) : Prop :=
  Yaml.read (Yaml.write (ofChanges changes).toEntries) = .ok (.map (ofChanges changes).toEntries)

instance : Decidable (IsReadBack changes) := inferInstanceAs (Decidable (_ = _))

theorem AreMadeBy.outcome_load (hm : AreMadeBy changes h) (hyaml : IsReadBack changes) :
    (load : Action (Host ν) Sources).outcome h = (.ok (ofChanges changes), h) := by
  rcases hm with ⟨rfl, hmissing⟩ | hk
  · exact hmissing.outcome_load
  · exact hk.outcome_load (isPlain_ofChanges changes) hyaml

theorem AreMissing.fileOn_eq (hm : AreMissing h) : fileOn h h.tree = .ok none := by
  have hfile := hm.file
  unfold Tree.exists? at hfile
  rcases hl : h.tree.lookUp h.directory (fileIn h) with e | node
  · rw [hl] at hfile
    cases hfile
  · rw [hl] at hfile
    rcases node with _ | node
    · exact hl
    · cases hfile

/-- Other sources are kept, if that can be; else the file is left as it was. -/
theorem AreMadeBy.outcome_save {ss : Sources} (hm : AreMadeBy changes h)
    (hs : Yaml.entriesOfTexts ss.toEntries = true) :
    (CanBeKept h ∧ ∃ t, ss.save.outcome h = (.ok (), { h with tree := t }) ∧
        ss.AreKept { h with tree := t }) ∨
      ¬ CanBeKept h ∧ ∃ e t, ss.save.outcome h = (.error e, { h with tree := t }) ∧
        AreMadeBy changes { h with tree := t } ∧ fileOn h t = fileOn h h.tree := by
  by_cases hcan : CanBeKept h
  · exact Or.inl ⟨hcan, hcan.outcome_save hs⟩
  · rcases hm with ⟨hnone, hmissing⟩ | hk
    · obtain ⟨e, t, hsave, hstill⟩ := hmissing.outcome_save hcan hs
      have hsame : fileOn h t = fileOn h h.tree := hstill.fileOn_eq.trans hmissing.fileOn_eq.symm
      exact Or.inr ⟨hcan, e, t, hsave, Or.inl ⟨hnone, hstill⟩, hsame⟩
    · exact absurd hk.canBeKept hcan

end Sources

namespace CommandLine

variable {ν : Type} {w : Web.Homeserver ν} {timeText : Nat → String} {h : Host ν}
  {c : Command} {commands : List Command} {changes : List SourceChange} {change : SourceChange}

open Sources (AreMadeBy AreMissing CanBeKept IsReadBack ofChanges fileOn)

/-- **A command makes its change if it is in order and the file can be written.** Else it fails and
leaves the file as it was. -/
theorem Command.next_cases (w : Web.Homeserver ν) (timeText : Nat → String)
    (hm : AreMadeBy changes h) (hyaml : IsReadBack changes)
    (hc : c.change? h.directory = some change) :
    ∃ t, c.next w timeText h = { h with tree := t } ∧
      ((c.IsInOrder (ofChanges changes) h ∧ CanBeKept h) ∧ c.status w timeText h = 0 ∧
          AreMadeBy (changes ++ [change]) { h with tree := t } ∨
        ¬ (c.IsInOrder (ofChanges changes) h ∧ CanBeKept h) ∧ c.status w timeText h = 1 ∧
          AreMadeBy changes { h with tree := t } ∧ fileOn h t = fileOn h h.tree) := by
  have hplain := Sources.isPlain_ofChanges changes
  rcases run_cases w timeText (hm.outcome_load hyaml) hplain hc with
    ⟨hno, r, hr, hs⟩ | ⟨hyes, ss', report, hentries, hs, hr⟩
  · refine ⟨h.tree, by rw [next, hr], Or.inr ⟨fun hi => hno hi.1, ?_, hm, rfl⟩⟩
    rw [status, hr]
    exact hs
  · rw [← Sources.ofChanges_concat] at hentries
    have htexts : Yaml.entriesOfTexts ss'.toEntries = true := by
      rw [hentries]
      exact Sources.entriesOfTexts_toEntries (Sources.isPlain_ofChanges _)
    rcases hm.outcome_save htexts with ⟨hcan, t, hsave, hk⟩ | ⟨hcan, e, t, hsave, hstill, hsame⟩
    · rw [outcome_bind_ok hsave] at hr
      have hmade : AreMadeBy (changes ++ [change]) { h with tree := t } :=
        Or.inr (hk.of_toEntries hentries)
      refine ⟨t, by rw [next, hr]; rfl, Or.inl ⟨⟨hyes, hcan⟩, ?_, hmade⟩⟩
      rw [status, hr]
      exact hs
    · rw [outcome_bind_error hsave] at hr
      refine ⟨t, by rw [next, hr], Or.inr ⟨fun hi => hcan hi.2, ?_, hstill, hsame⟩⟩
      rw [status, hr]
      rfl

/-- A command succeeds if it is in order and the file can be written, and only then. -/
theorem Command.status_eq_zero_iff (w : Web.Homeserver ν) (timeText : Nat → String)
    (hm : AreMadeBy changes h) (hyaml : IsReadBack changes) (hc : c.ChangesSources) :
    c.status w timeText h = 0 ↔ c.IsInOrder (ofChanges changes) h ∧ CanBeKept h := by
  obtain ⟨change, hchange⟩ := hc.exists_change? h.directory
  obtain ⟨t, -, ⟨hyes, hs, -⟩ | ⟨hno, hs, -⟩⟩ := next_cases w timeText hm hyaml hchange
  · exact ⟨fun _ => hyes, fun _ => hs⟩
  · rw [hs]
    exact ⟨nofun, fun hyes => absurd hyes hno⟩

/-- Commands leave a host that keeps what their changes make of no sources, and they change nothing
but files. -/
theorem after_cases (hm : AreMissing h) (hc : ∀ c ∈ commands, c.ChangesSources)
    (hyaml : ∀ changes, changes <+: changesOf w timeText h commands → IsReadBack changes) :
    ∃ t, after w timeText h commands = { h with tree := t } ∧
      AreMadeBy (changesOf w timeText h commands) { h with tree := t } := by
  induction commands using List.reverseRecOn with
  | nil => exact ⟨h.tree, rfl, Or.inl ⟨rfl, hm⟩⟩
  | append_singleton earlier c ih =>
    rw [changesOf_concat] at hyaml ⊢
    have hearlier := hyaml _ (List.prefix_append _ _)
    obtain ⟨t, hafter, hmade⟩ := ih (fun d hd => hc d (List.mem_append_left _ hd))
      fun changes hl => hyaml changes (hl.trans (List.prefix_append _ _))
    obtain ⟨change, hchange⟩ := (hc c (by simp)).exists_change? h.directory
    obtain ⟨t', hnext, ⟨-, hs, hmade'⟩ | ⟨-, hs, hmade', -⟩⟩ :=
      Command.next_cases w timeText hmade hearlier hchange
    · refine ⟨t', by rw [after_concat, hafter, hnext], ?_⟩
      rw [hafter, Command.made, if_pos hs, hchange]
      exact hmade'
    · refine ⟨t', by rw [after_concat, hafter, hnext], ?_⟩
      rw [hafter, Command.made, if_neg (by omega), List.append_nil]
      exact hmade'

/-- The default source can always be removed. -/
theorem Command.made_remove (w : Web.Homeserver ν) (timeText : Nat → String) {name : String}
    (hm : AreMadeBy changes h) (hyaml : IsReadBack changes)
    (hd : (ofChanges changes).default = .text name) :
    (Command.removeSource name).made w timeText h = [.remove name] := by
  have hfound : ∃ s ∈ (ofChanges changes).all, s.name = .text name := by
    rcases (Sources.isConsistent_ofChanges changes).default with hnull | ⟨s, hs, hname⟩
    · cases hd.symm.trans hnull
    · exact ⟨s, hs, hname.trans hd⟩
  have hcan : CanBeKept h := by
    rcases hm with ⟨rfl, -⟩ | hk
    · cases hd
    · exact hk.canBeKept
  have hchanges : (Command.removeSource name).ChangesSources := trivial
  exact if_pos ((status_eq_zero_iff w timeText hm hyaml hchanges).mpr ⟨hfound, hcan⟩)

/-- **Source commands keep the sources consistent.** Begin without a file of sources. Whatever
commands add and remove sources and choose the default one, the sources that are kept afterwards can
be read, if every document on the way is read as it was written. Their names are distinct, and they
are those that were added last under their names, in that order. The default one is one of them or
none, and none if it was just removed. A command that comes next succeeds if it is in order and the
file can be written, and only then; if it fails, the file is left as it was. -/
theorem source_commands_consistent (w : Web.Homeserver ν) (timeText : Nat → String) (h : Host ν)
    (commands : List Command) (hm : AreMissing h) (hc : ∀ c ∈ commands, c.ChangesSources)
    (hyaml : ∀ changes, changes <+: changesOf w timeText h commands → IsReadBack changes) :
    ∃ ss : Sources, (Sources.load : Action (Host ν) Sources).outcome (after w timeText h commands) =
        (.ok ss, after w timeText h commands) ∧
      ss.IsConsistent (changesOf w timeText h commands) ∧
      (∀ earlier name before, commands = earlier ++ [.removeSource name] →
        ((Sources.load : Action (Host ν) Sources).outcome (after w timeText h earlier)).1 =
          .ok before → before.default = .text name → ss.default = .null) ∧
      ∀ c : Command, c.ChangesSources →
        (c.status w timeText (after w timeText h commands) = 0 ↔
          c.IsInOrder ss (after w timeText h commands) ∧
            CanBeKept (after w timeText h commands)) ∧
        (c.status w timeText (after w timeText h commands) = 1 →
          fileOn h (c.next w timeText (after w timeText h commands)).tree =
            fileOn h (after w timeText h commands).tree) := by
  obtain ⟨t, hafter, hmade⟩ := after_cases hm hc hyaml
  have hread := hyaml _ List.prefix_rfl
  refine ⟨ofChanges (changesOf w timeText h commands), ?_, Sources.isConsistent_ofChanges _, ?_, ?_⟩
  · rw [hafter]
    exact hmade.outcome_load hread
  · rintro earlier name before rfl hbefore hdefault
    have hyaml₀ : ∀ changes, changes <+: changesOf w timeText h earlier → IsReadBack changes := by
      intro changes hl
      rw [changesOf_concat] at hyaml
      exact hyaml changes (hl.trans (List.prefix_append _ _))
    have hc₀ : ∀ c ∈ earlier, c.ChangesSources := fun c hmem => hc c (List.mem_append_left _ hmem)
    obtain ⟨t₀, hafter₀, hmade₀⟩ := after_cases hm hc₀ hyaml₀
    have hread₀ := hyaml₀ _ List.prefix_rfl
    rw [hafter₀, hmade₀.outcome_load hread₀] at hbefore
    obtain rfl := Except.ok.inj hbefore
    have hremoved := Command.made_remove w timeText hmade₀ hread₀ hdefault
    rw [changesOf_concat, hafter₀, hremoved, Sources.ofChanges_concat]
    exact Sources.default_remove hdefault
  · intro c hchanges
    rw [hafter]
    refine ⟨Command.status_eq_zero_iff w timeText hmade hread hchanges, fun hstatus => ?_⟩
    obtain ⟨change, hchange⟩ := hchanges.exists_change? h.directory
    obtain ⟨t', hnext, ⟨-, hs, -⟩ | ⟨-, -, -, hsame⟩⟩ :=
      Command.next_cases w timeText hmade hread hchange
    · rw [hs] at hstatus
      cases hstatus
    · rw [hnext]
      exact hsame

/-- A host without files, and no homeserver that can be reached from it. -/
def bareHost : Host Unit where
  environment := [(Environment.home, "/home/me")]
  server := ()

/-- Add a source as the default one, and remove it. -/
def addAndRemove : List Command :=
  [.addSource "work" (some "http://w") none (some "") none true, .removeSource "work"]

/-- The default source is added, which makes the directories and the file, and removed again. -/
theorem source_commands_added_removed :
    AreMissing bareHost ∧ (∀ c ∈ addAndRemove, c.ChangesSources) ∧
      (∀ changes, changes <+: changesOf ⟨fun _ s => (none, s)⟩ toString bareHost addAndRemove →
        IsReadBack changes) ∧
      ∃ ss : Sources, (Sources.load : Action (Host Unit) Sources).outcome
          (after ⟨fun _ s => (none, s)⟩ toString bareHost addAndRemove) =
        (.ok ss, after ⟨fun _ s => (none, s)⟩ toString bareHost addAndRemove) ∧
        ss.all = [] ∧ ss.default = .null := by
  have hmissing : AreMissing bareHost := ⟨by decide +kernel, by decide +kernel⟩
  have hsources : ∀ c ∈ addAndRemove, c.ChangesSources := by
    simp [addAndRemove, Command.ChangesSources]
  have hchanges : changesOf ⟨fun _ s => (none, s)⟩ toString bareHost addAndRemove =
      [.add ⟨.ofUrl "work" "http://w" none, .ofUrl ..⟩ true, .remove "work"] := by decide +kernel
  have hyaml : ∀ changes ∈ [SourceChange.add ⟨.ofUrl "work" "http://w" none, .ofUrl ..⟩ true,
      .remove "work"].inits, IsReadBack changes := by decide +kernel
  have hyaml' : ∀ changes, changes <+: changesOf ⟨fun _ s => (none, s)⟩ toString bareHost
      addAndRemove → IsReadBack changes := by
    intro changes hl
    rw [hchanges] at hl
    exact hyaml changes ((List.mem_inits _ _).mpr hl)
  have hadded : ((Sources.load : Action (Host Unit) Sources).outcome (after ⟨fun _ s => (none, s)⟩
      toString bareHost (addAndRemove.take 1))).1 =
        .ok ⟨[.ofUrl "work" "http://w" none], .text "work"⟩ := by decide +kernel
  obtain ⟨ss, hload, hconsistent, hremoved, -⟩ := source_commands_consistent
    ⟨fun _ s => (none, s)⟩ toString bareHost addAndRemove hmissing hsources hyaml'
  refine ⟨hmissing, hsources, hyaml', ss, hload, ?_, hremoved _ "work" _ rfl hadded rfl⟩
  rw [hconsistent.all, hchanges]
  decide

end CommandLine

end PairChat
