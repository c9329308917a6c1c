import PairChat.Yaml.File
import PairChat.Proofs.Outcome
import PairChat.Proofs.Printable
import PairChat.Proofs.Trees

/-!
# Files of a host: looking, reading and writing

Looking at a host leaves it as it is (`Action.IsRead`).  A file that was written is in its place
(`Host.outcome_writeFile`), and a document of texts that is in a file is read as it was written, if
this holds of its text (`Yaml.readOr_written`).
-/

namespace PairChat

open PairChat.Action
open Files (Path Tree)

variable {ν α : Type} {h : Host ν} {t : Tree} {cwd p : Path}

namespace Host

/-! ### Looking -/

theorem isRead_ask (f : Host ν → α) : (ask f).IsRead := fun _ => rfl

theorem isRead_isDirectory (p : Path) : (isDirectory p : Action (Host ν) Bool).IsRead :=
  fun _ => rfl

theorem isRead_resolved (p : Path) : (resolved p : Action (Host ν) Path).IsRead := fun _ => rfl

theorem outcome_setting? (name : String) :
    (setting? name).outcome h = (.ok (h.environment.value? name), h) := rfl

theorem outcome_exists? (p : Path) :
    (exists? p).outcome h = (h.tree.exists? h.directory p, h) := rfl

/-! ### Changing -/

theorem outcome_makePath_of {r : Except Failure Unit}
    (hr : h.tree.makePath h.directory p = (r, t)) :
    (makePath p).outcome h = (r, { h with tree := t }) := by
  rw [makePath, outcome_ofOutcome, hr]

variable {place : List String} {text : String}

theorem outcome_writeFile (hp : h.tree.filePlace h.directory p = .ok place) :
    (writeFile p text).outcome h =
      (.ok (), { h with tree := Tree.put place (.file text) h.tree }) := by
  simp only [writeFile, change, Tree.writeFile, outcome_bind, outcome_getState, outcome_lift, hp]
  rfl

theorem outcome_writeFile_error {e : Failure} (hp : h.tree.filePlace h.directory p = .error e) :
    (writeFile p text).outcome h = (.error e, h) := by
  simp only [writeFile, change, Tree.writeFile, outcome_bind, outcome_getState, outcome_lift, hp]
  rfl

theorem outcome_appendFile {old : Option String} (hp : h.tree.filePlace h.directory p = .ok place)
    (hold : h.tree.node? place = old.map .file) : (appendFile p text).outcome h =
      (.ok (), { h with tree := Tree.put place (.file (old.getD "" ++ text)) h.tree }) := by
  have happend : h.tree.appendFile h.directory p text =
      .ok (Tree.put place (.file (old.getD "" ++ text)) h.tree) := by
    simp only [Tree.appendFile, hp, hold, bind, Except.bind]
    cases old <;> simp [pure, Except.pure]
  simp only [appendFile, change, outcome_bind, outcome_getState, outcome_lift, happend]
  rfl

end Host

namespace Yaml

variable {entries : List (PairChat.Scalar × Value)}

/-! ### Documents -/

/-- A document is read from its file, if there is one. -/
theorem outcome_loadOr (f : Value → Except Failure α) (d : α) (p : Path) :
    (do if ← Host.exists? p then lift (f (← load p)) else return d : Action (Host ν) α).outcome h =
      (do if ← h.tree.exists? h.directory p then f (← read (← h.tree.text h.directory p))
          else .ok d, h) := by
  unfold load Host.textAt
  rw [outcome_bind, Host.outcome_exists?]
  rcases h.tree.exists? h.directory p with e | _ | _
  · rfl
  · rfl
  · simp only [if_true, outcome_bind, outcome_getState, outcome_lift]
    rcases h.tree.text h.directory p with e | text
    · rfl
    · simp only [bind, Except.bind, if_true]
      rcases read text with e | v <;> rfl

/-- **What is read from a file with a document**, if the document is read as it was written. -/
theorem readOr_written (hs : entriesOfTexts entries = true) {place : List String}
    (hp : t.filePlace cwd p = .ok place)
    (hn : t.node? place = some (.file (write entries)))
    (hyaml : read (write entries) = .ok (.map entries)) (f : Value → Except Failure α) (d : α) :
    (do if ← t.exists? cwd p then f (← read (← t.text cwd p)) else .ok d) = f (.map entries) := by
  obtain ⟨hfault, hplace, -⟩ := Tree.filePlace_eq_ok hp
  have hexists : t.exists? cwd p = .ok true :=
    Tree.exists?_eq_true_iff.mpr ⟨hfault, place, hplace, by rw [hn]; rfl⟩
  have htext : t.text cwd p = .ok (write entries) := by
    rw [Tree.text, hp]
    simp only [bind, Except.bind, hn]
    rw [joinBreaks_of_printable (printable_write hs), String.ofList_toList]
    rfl
  simp only [bind, Except.bind, hexists, if_true, htext, hyaml]

/-- A document of texts can be written. -/
theorem outcome_save (hs : entriesOfTexts entries = true) :
    (save p entries : Action (Host ν) Unit).outcome h =
      (Host.writeFile p (write entries)).outcome h := by
  have hfits : (Value.map entries).fits = true := fits_of_isOfTexts (.map _) hs
  rw [save, if_pos hfits]

end Yaml

end PairChat
