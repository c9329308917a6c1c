import PairChat.Text.Lines
import PairChat.Yaml.Writer
import Mathlib.Tactic.SplitIfs

/-!
# Printable: what a written document is made of

A document is written in printable ASCII and line feeds; everything else in a text stands in double
quotes, as an escape.

* `printable_styled`: **a text in the style that is chosen for it is printable**, from any column
  on.
* `printable_write`: so is a document of texts.
* `joinBreaks_of_printable`: reading it from a file leaves it as it is.
-/

namespace PairChat.Yaml

/-- The character is printable ASCII or a line feed. -/
def IsPrintable (c : Char) : Prop := needsEscape c = false

instance (c : Char) : Decidable (IsPrintable c) := inferInstanceAs (Decidable (_ = _))

theorem isPrintable_of_toNat {c : Char} (h : 0x20 ≤ c.toNat) (h' : c.toNat ≤ 0x7E) :
    IsPrintable c := by
  simp [IsPrintable, needsEscape, h, h']

/-- A text is printable if all its characters are, which can be computed. -/
theorem printable_of_all {s : String} (h : s.toList.all (fun c => !needsEscape c) = true) :
    ∀ c ∈ s.toList, IsPrintable c := by
  intro c hc
  have hall := List.all_eq_true.mp h c hc
  rwa [Bool.not_eq_true'] at hall

theorem printable_space : IsPrintable ' ' := by decide

theorem printable_lineFeed : IsPrintable '\n' := by decide

theorem printable_quote : IsPrintable '\'' := by decide

theorem printable_backslash : IsPrintable '\\' := by decide

theorem printable_replicate {c : Char} (hc : IsPrintable c) (n : Nat) :
    ∀ d ∈ List.replicate n c, IsPrintable d := by
  intro d hd
  rw [(List.mem_replicate.mp hd).2]
  exact hc

theorem printable_append {cs ds : List Char} (hc : ∀ c ∈ cs, IsPrintable c)
    (hd : ∀ c ∈ ds, IsPrintable c) : ∀ c ∈ cs ++ ds, IsPrintable c := by
  intro c h
  exact (List.mem_append.mp h).elim (hc c) (hd c)

theorem printable_breakTo (indent : Nat) : ∀ c ∈ breakTo indent, IsPrintable c := by
  intro c hc
  rcases List.mem_cons.mp hc with rfl | hc
  · exact printable_lineFeed
  · exact printable_replicate printable_space indent c hc

/-! ### Plain and in single quotes -/

section Folded
variable {fold : Bool} {indent : Nat}

theorem printable_plainFrom (fuel column : Nat) {cs : List Char} (h : ∀ c ∈ cs, IsPrintable c) :
    ∀ c ∈ plainFrom fold indent fuel column cs, IsPrintable c := by
  induction fuel generalizing column cs with
  | zero => exact h
  | succ fuel ih =>
    match cs with
    | [] => exact h
    | c :: cs =>
      have hcs : ∀ d ∈ cs, IsPrintable d := fun d hd => h d (List.mem_cons_of_mem c hd)
      unfold plainFrom
      dsimp only
      split_ifs
      · exact printable_append (printable_breakTo indent) (ih _ hcs)
      · exact printable_append (printable_replicate printable_space _)
          (ih _ fun d hd => hcs d (List.mem_of_mem_drop hd))
      · exact List.forall_mem_cons.mpr ⟨h c List.mem_cons_self, ih _ hcs⟩

theorem printable_foldedFrom (fuel : Nat) (first : Bool) (column : Nat) {cs : List Char}
    (h : ∀ c ∈ cs, IsPrintable c) :
    ∀ c ∈ foldedFrom fold indent fuel first column cs, IsPrintable c := by
  induction fuel generalizing first column cs with
  | zero => exact h
  | succ fuel ih =>
    match cs with
    | [] => exact h
    | c :: cs =>
      have hcs : ∀ d ∈ cs, IsPrintable d := fun d hd => h d (List.mem_cons_of_mem c hd)
      have hdrop : ∀ n, ∀ d ∈ cs.drop n, IsPrintable d := fun n d hd =>
        hcs d (List.mem_of_mem_drop hd)
      unfold foldedFrom
      dsimp only
      split_ifs
      · exact printable_append (printable_breakTo indent) (ih _ _ (hdrop _))
      · exact printable_append (printable_replicate printable_space _) (ih _ _ (hdrop _))
      · exact printable_append (printable_append (printable_replicate printable_lineFeed _)
          (printable_breakTo indent)) (ih _ _ (hdrop _))
      · exact List.forall_mem_cons.mpr ⟨printable_quote,
          List.forall_mem_cons.mpr ⟨printable_quote, ih _ _ hcs⟩⟩
      · exact List.forall_mem_cons.mpr ⟨h c List.mem_cons_self, ih _ _ hcs⟩

end Folded

/-! ### In double quotes -/

theorem exists_digit_of_mem_toDigits {n : Nat} {c : Char} (h : c ∈ Nat.toDigits 16 n) :
    ∃ d < 16, c = Nat.digitChar d := by
  induction n using Nat.strongRecOn with
  | ind n ih =>
    rw [Nat.toDigits_eq_if (by omega)] at h
    split_ifs at h with hn
    · exact ⟨n, hn, List.mem_singleton.mp h⟩
    · rcases List.mem_append.mp h with h | h
      · exact ih (n / 16) (Nat.div_lt_self (by omega) (by omega)) h
      · exact ⟨n % 16, Nat.mod_lt n (by omega), List.mem_singleton.mp h⟩

theorem printable_upperHex (width n : Nat) : ∀ c ∈ upperHex width n, IsPrintable c := by
  intro c hc
  obtain ⟨d, hd, rfl⟩ := List.mem_map.mp hc
  rcases List.mem_append.mp hd with hd | hd
  · rw [(List.mem_replicate.mp hd).2]
    decide
  · obtain ⟨k, hk, rfl⟩ := exists_digit_of_mem_toDigits hd
    have hdigits : ∀ k < 16, IsPrintable (Nat.digitChar k).toUpper := by decide
    exact hdigits k hk

/-- The letters of escapes are printable. -/
theorem printable_escapeLetters : ∀ e ∈ escapeLetters, IsPrintable e.2 := by decide

theorem printable_escape? {c : Char} {escape : List Char} (h : escape? c = some escape) :
    ∀ d ∈ escape, IsPrintable d := by
  have hhex : ∀ (kind : Char) (width n : Nat), IsPrintable kind →
      ∀ d ∈ '\\' :: kind :: upperHex width n, IsPrintable d := fun kind width n hkind =>
    List.forall_mem_cons.mpr ⟨printable_backslash,
      List.forall_mem_cons.mpr ⟨hkind, printable_upperHex width n⟩⟩
  unfold escape? at h
  dsimp only at h
  rcases hl : escapeLetters.lookup c.toNat with _ | letter <;> simp only [hl] at h
  · split_ifs at h <;> obtain rfl := Option.some.inj h
    · exact hhex 'x' 2 _ (by decide)
    · exact hhex 'u' 4 _ (by decide)
    · exact hhex 'U' 8 _ (by decide)
  · split_ifs at h
    obtain rfl := Option.some.inj h
    obtain ⟨l, l', hsplit, -⟩ := List.lookup_eq_some_iff.mp hl
    have hletter : IsPrintable letter := printable_escapeLetters (c.toNat, letter) (by
      rw [hsplit]
      exact List.mem_append_right _ List.mem_cons_self)
    exact List.forall_mem_cons.mpr ⟨printable_backslash, List.forall_mem_singleton.mpr hletter⟩

theorem printable_of_escape?_eq_none {c : Char} (h : escape? c = none) : IsPrintable c := by
  unfold escape? at h
  dsimp only at h
  split_ifs at h with hc
  exact isPrintable_of_toNat hc.1 hc.2.1

theorem printable_of_escaped_inl {p : Text.Piece} {escape : List Char}
    (h : escaped p = .inl escape) : ∀ d ∈ escape, IsPrintable d := by
  cases p with
  | half unit =>
    obtain rfl := Sum.inl.inj h
    exact List.forall_mem_cons.mpr ⟨printable_backslash,
      List.forall_mem_cons.mpr ⟨by decide, printable_upperHex 4 unit⟩⟩
  | char c =>
    rcases he : escape? c with _ | cs <;> simp only [escaped, he] at h
    · cases h
    · obtain rfl := Sum.inl.inj h
      exact printable_escape? he

theorem printable_of_escaped_inr {p : Text.Piece} {c : Char} (h : escaped p = .inr c) :
    IsPrintable c := by
  cases p with
  | half unit => cases h
  | char c' =>
    rcases he : escape? c' with _ | cs <;> simp only [escaped, he] at h
    · obtain rfl := Sum.inr.inj h
      exact printable_of_escape?_eq_none he
    · cases h

theorem printable_guardSpace (next : Option Text.Piece) :
    ∀ c ∈ guardSpace next, IsPrintable c := by
  unfold guardSpace
  split_ifs
  · exact List.forall_mem_singleton.mpr printable_backslash
  · exact fun _ h => absurd h List.not_mem_nil

/-- A broken line goes on after an indentation. -/
theorem printable_broken {cs ds : List Char} (indent : Nat) (next : Option Text.Piece)
    (hc : ∀ c ∈ cs, IsPrintable c) (hd : ∀ c ∈ ds, IsPrintable c) :
    ∀ c ∈ cs ++ '\\' :: breakTo indent ++ guardSpace next ++ ds, IsPrintable c := by
  refine printable_append (printable_append (printable_append hc ?_) ?_) hd
  · exact List.forall_mem_cons.mpr ⟨printable_backslash, printable_breakTo indent⟩
  · exact printable_guardSpace next

theorem printable_doubleFrom {fold : Bool} {indent length : Nat} (ps : List Text.Piece) (i : Nat)
    {pending : List Char} (column : Nat) (h : ∀ c ∈ pending, IsPrintable c) :
    ∀ c ∈ doubleFrom fold indent length i pending column ps, IsPrintable c := by
  have hreverse : ∀ {cs : List Char}, (∀ c ∈ cs, IsPrintable c) →
      ∀ c ∈ cs.reverse, IsPrintable c := fun h c hc => h c (List.mem_reverse.mp hc)
  have hnil : ∀ c ∈ ([] : List Char), IsPrintable c := fun _ h => absurd h List.not_mem_nil
  induction ps generalizing i pending column with
  | nil => exact hreverse h
  | cons p ps ih =>
    rcases he : escaped p with escape | c
    · have hwritten := printable_append (hreverse h) (printable_of_escaped_inl he)
      simp only [doubleFrom, he]
      split_ifs
      · exact printable_broken indent _ hwritten (ih _ _ hnil)
      · exact printable_append hwritten (ih _ _ hnil)
    · have hc := printable_of_escaped_inr he
      simp only [doubleFrom, he]
      split_ifs
      · exact printable_broken indent _ (hreverse h) (ih _ _ (List.forall_mem_singleton.mpr hc))
      · exact ih _ _ (List.forall_mem_cons.mpr ⟨hc, h⟩)

/-! ### Texts and documents -/

/-- **A text in the style that is chosen for it is printable.** -/
theorem printable_styled (oneLine fold : Bool) (indent column : Nat) (s : String) :
    ∀ c ∈ (styled (styleOf oneLine s) fold indent column s).toList, IsPrintable c := by
  have hsingle : fitsSingle s.toList → ∀ c ∈ s.toList, IsPrintable c := by
    intro h c hc
    simp only [fitsSingle, Bool.and_eq_true, Bool.not_eq_true', List.any_eq_false] at h
    simpa [IsPrintable] using h.1 c hc
  unfold styleOf styled
  dsimp only
  split_ifs with hplain hfits <;> rw [String.toList_ofList]
  · have hfits : fitsSingle s.toList := by
      simp only [fitsPlain, Bool.and_eq_true] at hplain
      exact hplain.2.1.1.1.1
    exact printable_plainFrom _ _ (hsingle hfits)
  · have hs : ∀ c ∈ s.toList, IsPrintable c := hsingle (Bool.and_eq_true_iff.mp hfits).1
    refine List.forall_mem_cons.mpr ⟨printable_quote, printable_append ?_ ?_⟩
    · exact printable_foldedFrom _ _ _ hs
    · exact List.forall_mem_singleton.mpr printable_quote
  · have hquote : IsPrintable '"' := by decide
    refine List.forall_mem_cons.mpr ⟨hquote, printable_append ?_ ?_⟩
    · exact printable_doubleFrom _ _ _ fun _ h => absurd h List.not_mem_nil
    · exact List.forall_mem_singleton.mpr hquote

theorem printable_keyAt (indent : Nat) (key : String) :
    ∀ c ∈ (keyAt indent (.text key)).toList, IsPrintable c := by
  have hcolon : ∀ c ∈ ":".toList, IsPrintable c := List.forall_mem_singleton.mpr (by decide)
  have hmark : ∀ c ∈ "? ".toList, IsPrintable c :=
    List.forall_mem_cons.mpr ⟨by decide, List.forall_mem_singleton.mpr (by decide)⟩
  unfold keyAt
  split_ifs <;> simp only [String.toList_append, String.toList_ofList]
  · exact printable_append (printable_styled true _ _ _ key) hcolon
  · exact printable_append (printable_append (printable_append hmark
      (printable_styled false _ _ _ key)) (printable_breakTo indent)) hcolon

mutual

/-- Is the value made of texts, in lists and in mappings with texts as keys? -/
def isOfTexts : Value → Bool
  | .text _ => true
  | .list items => areOfTexts items
  | .map entries => entriesOfTexts entries
  | _ => false

/-- Are the items made of texts? -/
def areOfTexts : List Value → Bool
  | [] => true
  | v :: vs => isOfTexts v && areOfTexts vs

/-- Are the entries made of texts? -/
def entriesOfTexts : List (PairChat.Scalar × Value) → Bool
  | [] => true
  | (.text _, v) :: es => isOfTexts v && entriesOfTexts es
  | _ => false

end

theorem printable_onLines (indent : Nat) {items : List String}
    (h : ∀ s ∈ items, ∀ c ∈ s.toList, IsPrintable c) :
    ∀ c ∈ (onLines indent items).toList, IsPrintable c := by
  unfold onLines
  induction items with
  | nil => exact fun _ h => absurd h List.not_mem_nil
  | cons s items ih =>
    have hs := h s List.mem_cons_self
    have hitems : ∀ s ∈ items, ∀ c ∈ s.toList, IsPrintable c := fun s hs =>
      h s (List.mem_cons_of_mem _ hs)
    match items with
    | [] => exact hs
    | t :: items =>
      rw [separated]
      · simp only [String.toList_append, String.toList_ofList]
        exact printable_append (printable_append hs (printable_breakTo indent)) (ih hitems)
      · nofun

/-- Where a block begins is printable. -/
theorem printable_start {indent : Nat} {s : String}
    (h : s = " " ∨ s = String.ofList (breakTo indent)) : ∀ c ∈ s.toList, IsPrintable c := by
  rcases h with rfl | rfl
  · exact List.forall_mem_singleton.mpr (by decide)
  · rw [String.toList_ofList]
    exact printable_breakTo indent

theorem listStart_eq (place : Place) (hasAnchor : Bool) (indent : Nat) : ∃ inner,
    (listStart place hasAnchor indent).1 = " " ∨
      (listStart place hasAnchor indent).1 = String.ofList (breakTo inner) := by
  cases place <;> cases hasAnchor
  · exact ⟨0, Or.inl rfl⟩
  · exact ⟨_, Or.inr rfl⟩
  · exact ⟨_, Or.inr rfl⟩
  · exact ⟨_, Or.inr rfl⟩
  · exact ⟨0, Or.inl rfl⟩
  · exact ⟨_, Or.inr rfl⟩

theorem mapStart_eq (place : Place) (hasAnchor : Bool) (indent : Nat) : ∃ inner,
    (mapStart place hasAnchor indent).1 = " " ∨
      (mapStart place hasAnchor indent).1 = String.ofList (breakTo inner) := by
  unfold mapStart
  dsimp only
  split_ifs
  · exact ⟨_, Or.inr rfl⟩
  · exact ⟨0, Or.inl rfl⟩

section Value
variable {anchors : List (Nat × Nat)}

mutual

theorem printable_valueAt : (v : Value) → isOfTexts v = true →
    ∀ (place : Place) (hasAnchor : Bool) (indent column : Nat) (written : List Nat),
      ∀ c ∈ ((valueAt anchors place hasAnchor indent column v).run written).1.toList, IsPrintable c
  | .scalar (.text s), _, place, hasAnchor, indent, column, written => by
    have hv : ((valueAt anchors place hasAnchor indent column (.text s)).run written).1 =
        " " ++ scalarAt false (indent + indentWidth) (column + 1) (.text s) := rfl
    rw [hv, String.toList_append]
    exact printable_append (List.forall_mem_singleton.mpr (by decide))
      (printable_styled false _ _ _ s)
  | .list [], _, place, hasAnchor, indent, column, written => by
    have hv : ((valueAt anchors place hasAnchor indent column (.list [])).run written).1 =
        " []" := rfl
    rw [hv]
    exact printable_of_all (by decide)
  | .list (v :: vs), h, place, hasAnchor, indent, column, written => by
    obtain ⟨inner, hstart⟩ := listStart_eq place hasAnchor indent
    have hitems := printable_itemsAt (v :: vs) h (listStart place hasAnchor indent).2 written
    have hv : ((valueAt anchors place hasAnchor indent column (.list (v :: vs))).run written).1 =
        (listStart place hasAnchor indent).1 ++ onLines (listStart place hasAnchor indent).2
          ((itemsAt anchors (listStart place hasAnchor indent).2 (v :: vs)).run written).1 := rfl
    rw [hv, String.toList_append]
    exact printable_append (printable_start hstart) (printable_onLines _ hitems)
  | .map [], _, place, hasAnchor, indent, column, written => by
    have hv : ((valueAt anchors place hasAnchor indent column (.map [])).run written).1 =
        " \x7b\x7d" := rfl
    rw [hv]
    exact printable_of_all (by decide)
  | .map (e :: es), h, place, hasAnchor, indent, column, written => by
    obtain ⟨inner, hstart⟩ := mapStart_eq place hasAnchor indent
    have hitems := printable_entriesAt (e :: es) h (mapStart place hasAnchor indent).2 written
    have hv : ((valueAt anchors place hasAnchor indent column (.map (e :: es))).run written).1 =
        (mapStart place hasAnchor indent).1 ++ onLines (mapStart place hasAnchor indent).2
          ((entriesAt anchors (mapStart place hasAnchor indent).2 (e :: es)).run written).1 := rfl
    rw [hv, String.toList_append]
    exact printable_append (printable_start hstart) (printable_onLines _ hitems)

theorem printable_itemsAt : (vs : List Value) → areOfTexts vs = true →
    ∀ (indent : Nat) (written : List Nat),
      ∀ s ∈ ((itemsAt anchors indent vs).run written).1, ∀ c ∈ s.toList, IsPrintable c
  | [], _, indent, written => fun _ h => absurd h List.not_mem_nil
  | v :: vs, h, indent, written => by
    obtain ⟨hv, hvs⟩ := Bool.and_eq_true_iff.mp h
    have hitem := printable_valueAt v hv .item false indent (indent + 1) written
    have hhyphen : ∀ c ∈ "-".toList, IsPrintable c := List.forall_mem_singleton.mpr (by decide)
    have hitems := printable_itemsAt vs hvs indent
      ((valueAt anchors .item false indent (indent + 1) v).run written).2
    refine List.forall_mem_cons.mpr ⟨?_, hitems⟩
    rw [String.toList_append]
    exact printable_append hhyphen hitem

theorem printable_entriesAt : (es : List (PairChat.Scalar × Value)) → entriesOfTexts es = true →
    ∀ (indent : Nat) (written : List Nat),
      ∀ s ∈ ((entriesAt anchors indent es).run written).1, ∀ c ∈ s.toList, IsPrintable c
  | [], _, indent, written => fun _ h => absurd h List.not_mem_nil
  | (.text k, v) :: es, h, indent, written => by
    obtain ⟨hv, hes⟩ := Bool.and_eq_true_iff.mp h
    have hvalue := printable_valueAt v hv (if isSimpleKey (.text k) then .key else .colon) false
      indent (columnAfter indent (.text k)) written
    have hentries := printable_entriesAt es hes indent ((valueAt anchors
      (if isSimpleKey (.text k) then .key else .colon) false indent
      (columnAfter indent (.text k)) v).run written).2
    refine List.forall_mem_cons.mpr ⟨?_, hentries⟩
    rw [String.toList_append]
    exact printable_append (printable_keyAt indent k) hvalue

end

end Value

/-- **A document of texts is printable.** -/
theorem printable_write {entries : List (PairChat.Scalar × Value)}
    (h : entriesOfTexts entries = true) : ∀ c ∈ (write entries).toList, IsPrintable c := by
  have hend : ∀ c ∈ "\n".toList, IsPrintable c := List.forall_mem_singleton.mpr (by decide)
  unfold write
  split_ifs
  · exact printable_of_all (by decide)
  · rw [String.toList_append]
    exact printable_append (printable_onLines 0 (printable_entriesAt entries h 0 [])) hend

mutual

/-- What is made of texts can be written. -/
theorem fits_of_isOfTexts : (v : Value) → isOfTexts v = true → v.fits = true
  | .scalar (.text _), _ => rfl
  | .list items, h => allFit_of_areOfTexts items h
  | .map entries, h => entriesFit_of_entriesOfTexts entries h

theorem allFit_of_areOfTexts : (vs : List Value) → areOfTexts vs = true → Value.allFit vs = true
  | [], _ => rfl
  | v :: vs, h => by
    obtain ⟨hv, hvs⟩ := Bool.and_eq_true_iff.mp h
    exact Bool.and_eq_true_iff.mpr ⟨fits_of_isOfTexts v hv, allFit_of_areOfTexts vs hvs⟩

theorem entriesFit_of_entriesOfTexts : (es : List (PairChat.Scalar × Value)) →
    entriesOfTexts es = true → Value.entriesFit es = true
  | [], _ => rfl
  | (.text _, v) :: es, h => by
    obtain ⟨hv, hes⟩ := Bool.and_eq_true_iff.mp h
    exact Bool.and_eq_true_iff.mpr ⟨fits_of_isOfTexts v hv, entriesFit_of_entriesOfTexts es hes⟩

end

/-- A printable text is read from a file as it was written. -/
theorem joinBreaks_of_printable {cs : List Char} (h : ∀ c ∈ cs, IsPrintable c) :
    Text.joinBreaks cs = cs := by
  induction cs with
  | nil => rfl
  | cons c cs ih =>
    obtain ⟨hc, hcs⟩ := List.forall_mem_cons.mp h
    have hne : c ≠ '\r' := by
      rintro rfl
      cases hc
    rw [Text.joinBreaks]
    · rw [ih hcs]
    · exact fun cs' e => absurd e hne
    · exact fun e => absurd e hne

end PairChat.Yaml
