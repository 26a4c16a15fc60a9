import Mathlib.Data.List.SplitBy
import StoryExports.Proofs.Capitals
import StoryExports.Proofs.Passes
import StoryExports.Story.Template

/-!
# Names of exports

The export name of a story is made of the words of its title: the maximal runs of ASCII letters and
digits, each with a capital. Such a name can always be declared and gives itself once more, so the
only names that the check of a story can turn down are those that the template gives explicitly.
-/
namespace StoryExports.Name

/-- An ASCII letter or digit. -/
def isWordPart (c : Char) : Bool := isAsciiLetter c || isAsciiDigit c

/-- The maximal runs of characters of a text that are all word parts or all not. -/
def runs (t : Text) : List Text := t.splitBy fun c d => isWordPart c == isWordPart d

def isWord (run : Text) : Bool := run.all isWordPart

/-- The maximal runs of word parts. -/
def words (t : Text) : List Text := (runs t).filter isWord

/-- A word with its first character in upper case. -/
def capitalise (word : Text) : Text := word.modifyHead Char.toUpper

/-- A name without the `_` before a leading digit. -/
def withoutGuard : Text → Text
  | '_' :: c :: cs => if isAsciiDigit c then c :: cs else '_' :: c :: cs
  | name => name

/-! ### Word parts -/

section WordParts

variable {c : Char} {t : Text} {inWord : Bool}

theorem isNamePart_of_isWordPart (h : isWordPart c = true) : isNamePart c = true := by
  rw [isWordPart] at h
  simp [isNamePart, h]

theorem upperCase_of_isWordPart (h : isWordPart c = true) : upperCase c = [c.toUpper] :=
  upperCase_ascii (toNat_lt_of_isNamePart (isNamePart_of_isWordPart h))

theorem isWordPart_toUpper (h : isWordPart c = true) : isWordPart c.toUpper = true := by
  have hascii : ∀ n < 128, isWordPart (Char.ofNat n) = true →
      isWordPart (Char.ofNat n).toUpper = true := by
    decide +kernel
  have hc := toNat_lt_of_isNamePart (isNamePart_of_isWordPart h)
  rw [← Char.ofNat_toNat c] at h ⊢
  exact hascii c.toNat hc h

theorem pascalCase_cons (inWord : Bool) (c : Char) (t : Text) :
    pascalCase inWord (c :: t) =
      if isWordPart c then
        if inWord then c :: pascalCase true t else upperCase c ++ pascalCase true t
      else pascalCase false t := rfl

theorem pascalCase_cons_gap (h : isWordPart c = false) (t : Text) :
    pascalCase inWord (c :: t) = pascalCase false t := by
  rw [pascalCase_cons, if_neg (by simp [h])]

theorem pascalCase_cons_inside (h : isWordPart c = true) (t : Text) :
    pascalCase true (c :: t) = c :: pascalCase true t := by
  rw [pascalCase_cons, if_pos h, if_pos rfl]

theorem pascalCase_cons_first (h : isWordPart c = true) (t : Text) :
    pascalCase false (c :: t) = c.toUpper :: pascalCase true t := by
  rw [pascalCase_cons, if_pos h, if_neg (by simp), upperCase_of_isWordPart h,
    List.singleton_append]

theorem isWordPart_of_mem_pascalCase : ∀ c ∈ pascalCase inWord t, isWordPart c = true := by
  induction t generalizing inWord with
  | nil => simp [pascalCase]
  | cons c t ih =>
    cases hc : isWordPart c with
    | false => rw [pascalCase_cons_gap hc]; exact ih
    | true =>
      cases inWord with
      | true =>
        rw [pascalCase_cons_inside hc, List.forall_mem_cons]
        exact ⟨hc, ih⟩
      | false =>
        rw [pascalCase_cons_first hc, List.forall_mem_cons]
        exact ⟨isWordPart_toUpper hc, ih⟩

theorem pascalCase_eq_nil_iff : pascalCase inWord t = [] ↔ ∀ c ∈ t, isWordPart c = false := by
  induction t generalizing inWord with
  | nil => simp [pascalCase]
  | cons c t ih =>
    rw [List.forall_mem_cons]
    cases hc : isWordPart c with
    | false => rw [pascalCase_cons_gap hc, ih]; simp
    | true => cases inWord <;> simp [pascalCase_cons_inside hc, pascalCase_cons_first hc]

theorem not_isLower_head_pascalCase : ∀ c ∈ (pascalCase false t).head?, c.isLower = false := by
  induction t with
  | nil => simp [pascalCase]
  | cons c t ih =>
    cases hc : isWordPart c with
    | false => rw [pascalCase_cons_gap hc]; exact ih
    | true =>
      rw [pascalCase_cons_first hc]
      rintro _ ⟨⟩
      exact not_isLower_of_mem_upperCase (upperCase_of_isWordPart hc ▸ List.mem_singleton_self _)

end WordParts

/-! ### Words -/

section Words

variable {t w gap run part : Text} {parts : List Text}

theorem pascalCase_gap_append (hgap : ∀ c ∈ gap, isWordPart c = false) (t : Text) :
    pascalCase false (gap ++ t) = pascalCase false t := by
  induction gap with
  | nil => rfl
  | cons c gap ih =>
    rw [List.forall_mem_cons] at hgap
    rw [List.cons_append, pascalCase_cons_gap hgap.1, ih hgap.2]

theorem pascalCase_inside_append (hw : ∀ c ∈ w, isWordPart c = true) (t : Text) :
    pascalCase true (w ++ t) = w ++ pascalCase true t := by
  induction w with
  | nil => rfl
  | cons c w ih =>
    rw [List.forall_mem_cons] at hw
    rw [List.cons_append, pascalCase_cons_inside hw.1, ih hw.2, List.cons_append]

theorem pascalCase_word_append (hne : w ≠ []) (hw : ∀ c ∈ w, isWordPart c = true) (t : Text) :
    pascalCase false (w ++ t) = capitalise w ++ pascalCase true t := by
  obtain ⟨c, w, rfl⟩ := List.exists_cons_of_ne_nil hne
  rw [List.forall_mem_cons] at hw
  rw [List.cons_append, pascalCase_cons_first hw.1, pascalCase_inside_append hw.2]
  rfl

/-- Behind a word that ends here a text is read as at the start. -/
theorem pascalCase_true_eq (h : ∀ c ∈ t.head?, isWordPart c = false) :
    pascalCase true t = pascalCase false t := by
  cases t with
  | nil => rfl
  | cons c t => rw [pascalCase_cons_gap (h c rfl), pascalCase_cons_gap (h c rfl)]

/-- A run is of one kind from its first character on. -/
theorem isWordPart_of_isChain {c : Char}
    (h : (c :: t).IsChain fun c d => (isWordPart c == isWordPart d) = true) :
    ∀ d ∈ c :: t, isWordPart d = isWordPart c := by
  induction t generalizing c with
  | nil => simp
  | cons d t ih =>
    obtain ⟨hcd, htail⟩ := List.isChain_cons_cons.mp h
    have hd : isWordPart c = isWordPart d := by simpa using hcd
    refine List.forall_mem_cons.mpr ⟨rfl, fun e he => ?_⟩
    rw [ih htail e he, hd]

theorem exists_kind_of_mem_runs (h : run ∈ runs t) :
    run ≠ [] ∧ ∃ kind, ∀ c ∈ run, isWordPart c = kind := by
  have hne : run ≠ [] := List.ne_nil_of_mem_splitBy h
  obtain ⟨c, rest, rfl⟩ := List.exists_cons_of_ne_nil hne
  exact ⟨hne, isWordPart c, isWordPart_of_isChain (List.isChain_of_mem_splitBy h)⟩

/-- Parts of a text that are not empty, each of one kind, with kinds that alternate. -/
structure Alternate (parts : List Text) : Prop where
  kind : ∀ part ∈ parts, part ≠ [] ∧ ∃ kind, ∀ c ∈ part, isWordPart c = kind
  chain : parts.IsChain fun part next => ∀ c ∈ part, ∀ d ∈ next, isWordPart c ≠ isWordPart d

theorem alternate_runs (t : Text) : Alternate (runs t) := by
  refine ⟨fun run hrun => exists_kind_of_mem_runs hrun, ?_⟩
  refine (List.isChain_getLast_head_splitBy _ t).imp_of_mem_imp fun run next hrun hnext h => ?_
  obtain ⟨hne, hne', hends⟩ := h
  obtain ⟨-, kind, hkind⟩ := exists_kind_of_mem_runs hrun
  obtain ⟨-, kind', hkind'⟩ := exists_kind_of_mem_runs hnext
  intro c hc d hd
  rw [hkind c hc, hkind' d hd]
  rw [hkind _ (List.getLast_mem hne), hkind' _ (List.head_mem hne')] at hends
  simpa using hends

theorem Alternate.tail (h : Alternate (part :: parts)) : Alternate parts :=
  ⟨(List.forall_mem_cons.mp h.kind).2, h.chain.tail⟩

/-- Behind a word there is no part or one between words. -/
theorem Alternate.pascalCase_true_flatten (h : Alternate (part :: parts))
    (hpart : ∀ c ∈ part, isWordPart c = true) :
    pascalCase true parts.flatten = pascalCase false parts.flatten := by
  cases parts with
  | nil => rfl
  | cons next parts =>
    obtain ⟨hne, -⟩ := h.kind part List.mem_cons_self
    obtain ⟨hnext, -⟩ := h.kind next (by simp)
    obtain ⟨c, part, rfl⟩ := List.exists_cons_of_ne_nil hne
    obtain ⟨d, next, rfl⟩ := List.exists_cons_of_ne_nil hnext
    have hkinds := (List.isChain_cons_cons.mp h.chain).1 c List.mem_cons_self d List.mem_cons_self
    rw [hpart c List.mem_cons_self] at hkinds
    exact pascalCase_true_eq (by rintro _ ⟨⟩; simpa using hkinds.symm)

theorem Alternate.word_or_gap (h : Alternate (part :: parts)) :
    (isWord part = true ∧ ∀ c ∈ part, isWordPart c = true) ∨
      (¬isWord part = true ∧ ∀ c ∈ part, isWordPart c = false) := by
  obtain ⟨hne, kind, hkind⟩ := h.kind part List.mem_cons_self
  cases kind with
  | true => exact .inl ⟨List.all_eq_true.mpr hkind, hkind⟩
  | false =>
    obtain ⟨c, part, rfl⟩ := List.exists_cons_of_ne_nil hne
    exact .inr ⟨by simp [isWord, hkind c List.mem_cons_self], hkind⟩

theorem Alternate.pascalCase_flatten (h : Alternate parts) :
    pascalCase false parts.flatten = (parts.filter isWord).flatMap capitalise := by
  induction parts with
  | nil => rfl
  | cons part parts ih =>
    rw [List.flatten_cons]
    rcases h.word_or_gap with ⟨hword, hparts⟩ | ⟨hgap, hparts⟩
    · -- The word ends where the part ends, and what follows starts anew.
      rw [pascalCase_word_append (h.kind part List.mem_cons_self).1 hparts,
        h.pascalCase_true_flatten hparts, ih h.tail, List.filter_cons_of_pos hword,
        List.flatMap_cons]
    · rw [pascalCase_gap_append hparts, ih h.tail, List.filter_cons_of_neg hgap]

theorem Alternate.flatten_filter (h : Alternate parts) :
    (parts.filter isWord).flatten = parts.flatten.filter isWordPart := by
  induction parts with
  | nil => rfl
  | cons part parts ih =>
    rw [List.flatten_cons, List.filter_append, ← ih h.tail]
    rcases h.word_or_gap with ⟨hword, hparts⟩ | ⟨hgap, hparts⟩
    · rw [List.filter_cons_of_pos hword, List.flatten_cons, List.filter_eq_self.mpr hparts]
    · have hnone : part.filter isWordPart = [] := List.filter_eq_nil_iff.mpr (by simpa using hparts)
      rw [List.filter_cons_of_neg hgap, hnone, List.nil_append]

/-- The words of a text, each with a capital. -/
theorem pascalCase_eq (t : Text) : pascalCase false t = (words t).flatMap capitalise := by
  have h := (alternate_runs t).pascalCase_flatten
  rwa [runs, List.flatten_splitBy] at h

theorem flatten_words (t : Text) : (words t).flatten = t.filter isWordPart := by
  have h := (alternate_runs t).flatten_filter
  rwa [runs, List.flatten_splitBy] at h

/-- A word with a capital is read as it is. -/
theorem pascalCase_of_word {name : Text} (hparts : ∀ c ∈ name, isWordPart c = true)
    (hcapital : ∀ c ∈ name.head?, c.isLower = false) : pascalCase false name = name := by
  cases name with
  | nil => rfl
  | cons c rest =>
    rw [List.forall_mem_cons] at hparts
    have hrest : pascalCase true (rest ++ []) = rest ++ [] := pascalCase_inside_append hparts.2 []
    rw [List.append_nil] at hrest
    have hascii := toNat_lt_of_isNamePart (isNamePart_of_isWordPart hparts.1)
    rw [pascalCase_cons_first hparts.1, hrest, toUpper_ascii hascii,
      if_neg (by simp [hcapital c rfl])]

end Words

/-! ### The export name of a title -/

section Export

variable {title name : Text}

theorem storyExport?_eq (title : Text) : storyExport? title =
    if pascalCase false title = [] then none else some (guardDigit (pascalCase false title)) := by
  unfold storyExport?
  split
  next h => rw [if_pos h]
  next h => rw [if_neg h]

theorem storyExport?_eq_some_iff : storyExport? title = some name ↔
    pascalCase false title ≠ [] ∧ guardDigit (pascalCase false title) = name := by
  rw [storyExport?_eq, Option.ite_none_left_eq_some, Option.some.injEq]

theorem storyExport?_eq_none_iff :
    storyExport? title = none ↔ ∀ c ∈ title, isWordPart c = false := by
  have hnil : pascalCase false title = [] ↔ _ := pascalCase_eq_nil_iff
  rw [storyExport?_eq, ← hnil]
  simp

theorem capitalised_of_storyExport? (h : storyExport? title = some name) : Capitalised name := by
  obtain ⟨hne, rfl⟩ := storyExport?_eq_some_iff.mp h
  exact capitalised_guardDigit hne
    (fun c hc => isNamePart_of_isWordPart (isWordPart_of_mem_pascalCase c hc))
    not_isLower_head_pascalCase

theorem pascalCase_guardDigit (t : Text) :
    pascalCase false (guardDigit t) = pascalCase false t := by
  cases t with
  | nil => rfl
  | cons c t =>
    rw [guardDigit]
    split
    · exact pascalCase_cons_gap rfl _
    · rfl

theorem storyExport?_self (h : storyExport? title = some name) : storyExport? name = some name := by
  obtain ⟨hne, rfl⟩ := storyExport?_eq_some_iff.mp h
  have hword : pascalCase false (pascalCase false title) = pascalCase false title :=
    pascalCase_of_word isWordPart_of_mem_pascalCase not_isLower_head_pascalCase
  rw [storyExport?_eq_some_iff, pascalCase_guardDigit, hword]
  exact ⟨hne, rfl⟩

theorem withoutGuard_guardDigit {t : Text} (h : ∀ c ∈ t, isWordPart c = true) :
    withoutGuard (guardDigit t) = t := by
  cases t with
  | nil => rfl
  | cons c t =>
    rw [guardDigit]
    split
    next hdigit => simp [withoutGuard, hdigit]
    next =>
      unfold withoutGuard
      split
      next heq =>
        cases heq
        cases h '_' List.mem_cons_self
      next => rfl

end Export

end StoryExports.Name

namespace StoryExports.Story

variable {c : Template.Component} {source name : Text} {title : Option Text}
  {comment : Option Note} {e : Unexpected}

/-- A name that an element gives in its attribute `exportName`. -/
def Given (c : Template.Component) (name : Text) : Prop :=
  ∃ a, c.attribute? "exportName".toList = some a ∧ a.value.static? = some name

theorem staticAttribute_eq_error {key : Text} (h : staticAttribute c key = .error e) :
    ∃ offset, e = .dynamicAttribute key c.name offset := by
  unfold staticAttribute at h
  split at h
  · cases h
  · split at h
    · cases h
    · cases h
      exact ⟨_, rfl⟩

theorem staticAttribute_eq_some {key text : Text} :
    staticAttribute c key = .ok (some text) ↔
      ∃ a, c.attribute? key = some a ∧ a.value.static? = some text := by
  unfold staticAttribute
  split
  next h => simp [h]
  next a h =>
    split
    next text' htext => simp [h, htext]
    next htext => simp [h, htext]

/-- The name of a story is given, or made from its title. -/
theorem given_or_storyExport? (h : exportNameOf c title = .ok name) :
    Given c name ∨ ∃ t, title = some t ∧ Name.storyExport? t = some name := by
  obtain ⟨given, hgiven, h⟩ := bind_eq_ok h
  cases given with
  | some text =>
    cases h
    exact .inl (staticAttribute_eq_some.mp hgiven)
  | none =>
    cases hmade : title.bind Name.storyExport? with
    | none => simp [hmade] at h
    | some text =>
      simp only [hmade] at h
      cases h
      exact .inr (Option.bind_eq_some_iff.mp hmade)

theorem exportNameOf_of_given (h : Given c name) : exportNameOf c title = .ok name := by
  rw [exportNameOf, staticAttribute_eq_some.mpr h]
  rfl

theorem exportNameOf_ne_unbindable : exportNameOf c title ≠ .error (.unbindableExport name) := by
  intro h
  rcases bind_eq_error h with h | ⟨given, -, h⟩
  · obtain ⟨_, h⟩ := staticAttribute_eq_error h
    cases h
  · repeat' split at h
    all_goals cases h

theorem childrenMarkup_ne_unbindable :
    childrenMarkup c source ≠ .error (.unbindableExport name) := by
  intro h
  unfold childrenMarkup at h
  split at h
  · dsimp only at h
    split at h <;> cases h
  · cases h
  · split at h <;> cases h

theorem sourceCode_ne_unbindable {exportName : Text} :
    sourceCode c source exportName ≠ .error (.unbindableExport name) := by
  intro h
  unfold sourceCode at h
  split at h
  · cases h
  · cases hmarkup : childrenMarkup c source with
    | ok markup => rw [hmarkup] at h; cases h
    | error e =>
      rw [hmarkup] at h
      cases h
      exact childrenMarkup_ne_unbindable hmarkup
  · split at h <;> cases h

/-- The check of a story turns down just the given names that cannot be declared. -/
theorem readStory_unbindable_iff :
    readStory c source comment = .error (.unbindableExport name) ↔
      (∃ title, staticAttribute c "name".toList = .ok title) ∧ Given c name ∧
        Name.isBindable name = false := by
  constructor
  · intro h
    rcases bind_eq_error h with h | ⟨title, htitle, h⟩
    · obtain ⟨_, h⟩ := staticAttribute_eq_error h
      cases h
    rcases bind_eq_error h with h | ⟨exportName, hexport, h⟩
    · exact absurd h exportNameOf_ne_unbindable
    split at h
    next hbindable =>
      cases h
      have hunbindable : Name.isBindable name = false := by simpa using hbindable
      rcases given_or_storyExport? hexport with hgiven | ⟨t, -, hmade⟩
      · exact ⟨⟨title, htitle⟩, hgiven, hunbindable⟩
      · rw [(Name.capitalised_of_storyExport? hmade).isBindable] at hunbindable
        cases hunbindable
    next =>
      rcases bind_eq_error h with h | ⟨code, -, h⟩
      · exact absurd h sourceCode_ne_unbindable
      · cases h
  · rintro ⟨⟨title, htitle⟩, hgiven, hunbindable⟩
    rw [readStory, htitle]
    show (exportNameOf c title >>= _) = _
    rw [exportNameOf_of_given hgiven]
    show (if !Name.isBindable name then _ else _) = _
    rw [if_pos (by simp [hunbindable])]
    rfl

end StoryExports.Story

namespace StoryExports.Name

open Story (readStory staticAttribute Given)

/-- A title gives a name if it has a letter or a digit. The name can be declared, gives itself, and
spells the words of the title. So the check of a story turns down given names only. -/
theorem storyExport?_declarable :
    (∀ title, (storyExport? title = none ↔ ∀ c ∈ title, isWordPart c = false) ∧
      ∀ name, storyExport? title = some name →
        isBindable name = true ∧ storyExport? name = some name ∧
          withoutGuard name = (words title).flatMap capitalise ∧
          (words title).flatten = title.filter isWordPart) ∧
    ∀ c source comment name, readStory c source comment = .error (.unbindableExport name) ↔
      (∃ title, staticAttribute c "name".toList = .ok title) ∧ Given c name ∧
        isBindable name = false := by
  refine ⟨fun title => ⟨storyExport?_eq_none_iff, fun name h => ?_⟩, fun c source comment name =>
    Story.readStory_unbindable_iff⟩
  refine ⟨(capitalised_of_storyExport? h).isBindable, storyExport?_self h, ?_, flatten_words title⟩
  obtain ⟨-, rfl⟩ := storyExport?_eq_some_iff.mp h
  rw [withoutGuard_guardDigit isWordPart_of_mem_pascalCase, pascalCase_eq]

/-- A title with a leading digit, and with a letter that is no word part inside a run of others. -/
def mixedTitle : Text := "2 größe-x_y".toList

/-- An element that gives a reserved word. -/
def reservedElement : Template.Component where
  span := ⟨0, 30⟩
  name := "Story".toList
  attributes := [.plain ⟨⟨7, 27⟩, "exportName".toList, .single (.text ⟨19, 26⟩ "default".toList)⟩]
  children := none

theorem storyExport?_mixedTitle :
    words mixedTitle = ["2", "gr", "e", "x", "y"].map String.toList ∧
      storyExport? mixedTitle = some "_2GrEXY".toList ∧ isBindable "_2GrEXY".toList = true ∧
      storyExport? "_2GrEXY".toList = some "_2GrEXY".toList ∧
      readStory reservedElement [] none = .error (.unbindableExport "default".toList) := by
  have hname : storyExport? mixedTitle = some "_2GrEXY".toList := by decide +kernel
  obtain ⟨htitles, hchecks⟩ := storyExport?_declarable
  obtain ⟨hbindable, hself, -⟩ := (htitles mixedTitle).2 _ hname
  exact ⟨rfl, hname, hbindable, hself, (hchecks _ _ _ _).mpr ⟨⟨none, rfl⟩, ⟨_, rfl, rfl⟩, rfl⟩⟩

end StoryExports.Name
