import StoryExports.Proofs.Cuts
import StoryExports.Proofs.LexedLines
import StoryExports.Proofs.ParsedPlaces

/-!
# Where tokens stand

A scanner says how many bytes it has read and which text is left. Both agree, so each token starts
and ends at a boundary of the text, and the tokens follow one another.
-/
namespace StoryExports

namespace Text

/-- What is left of a text after so many bytes. -/
structure Leaves (t : Text) (n : Nat) (rest : Text) : Prop where
  suffix : rest <:+ t
  size : t.bytes = n + rest.bytes

namespace Leaves

variable {t u rest : Text} {n m : Nat} {c : Char}

theorem refl (t : Text) : t.Leaves 0 t := ⟨List.suffix_rfl, (Nat.zero_add _).symm⟩

theorem trans (h : t.Leaves n u) (h' : u.Leaves m rest) : t.Leaves (n + m) rest :=
  ⟨h'.suffix.trans h.suffix, by rw [h.size, h'.size, Nat.add_assoc]⟩

theorem cons (h : t.Leaves n rest) : Leaves (c :: t) (c.utf8Size + n) rest :=
  ⟨h.suffix.trans (List.suffix_cons c t), by rw [bytes_cons, h.size, Nat.add_assoc]⟩

/-- Characters of one byte. -/
theorem ascii (h : t.Leaves n rest) (hc : c.utf8Size = 1) : Leaves (c :: t) (1 + n) rest :=
  hc ▸ h.cons

theorem of_eq (h : t.Leaves n rest) (hn : n = m) : t.Leaves m rest := hn ▸ h

theorem append (a b : Text) : Leaves (a ++ b) a.bytes b :=
  ⟨List.suffix_append a b, bytes_append a b⟩

theorem exists_append (h : t.Leaves n rest) : ∃ a, t = a ++ rest ∧ bytes a = n := by
  obtain ⟨a, rfl⟩ := h.suffix
  have hsize := h.size
  rw [bytes_append] at hsize
  exact ⟨a, rfl, by omega⟩

theorem isBoundary (h : t.Leaves n rest) : t.isBoundary n = true := by
  obtain ⟨a, rfl, rfl⟩ := h.exists_append
  exact isBoundary_append a rest

theorem pos (h : t.Leaves n rest) (hlen : rest.length < t.length) : 0 < n := by
  obtain ⟨a, rfl, rfl⟩ := h.exists_append
  refine Nat.pos_of_ne_zero fun ha => ?_
  simp [eq_nil_of_bytes_eq_zero ha] at hlen

/-- Further on in a text less of it is left. -/
theorem length_lt_length (h : t.Leaves n u) (h' : t.Leaves m rest) (hlt : n < m) :
    rest.length < u.length := by
  refine Nat.lt_of_not_le fun hle => ?_
  obtain ⟨a, rfl⟩ := List.suffix_of_suffix_length_le h.suffix h'.suffix hle
  have hn := h.size
  have hm := h'.size
  rw [bytes_append] at hm
  omega

end Leaves

theorem leaves_of_stripStart? {t beginning rest : Text} (h : stripStart? t beginning = some rest) :
    t.Leaves beginning.bytes rest := by
  induction beginning generalizing t with
  | nil =>
    rw [stripStart?] at h
    cases h
    exact .refl _
  | cons b bs ih =>
    cases t with
    | nil => cases h
    | cons c t =>
      simp only [stripStart?] at h
      split at h
      · subst_vars
        exact (ih h).cons
      · cases h

end Text

namespace Script

variable {α : Type} {t : Text}

/-- A scanner that has read as many bytes as it says. -/
abbrev Scan.Of (s : Scan α) (t : Text) : Prop := t.Leaves s.size s.rest

theorem scanWhile_of (p : Char → Bool) (t : Text) : (scanWhile p t).Of t := by
  induction t with
  | nil => exact .refl _
  | cons c t ih =>
    simp only [scanWhile]
    split
    · exact ih.cons
    · exact .refl _

theorem scanHex_of {n : Nat} {s : Scan Text} (h : scanHex n t = some s) : s.Of t := by
  induction n generalizing t s with
  | zero =>
    cases h
    exact .refl _
  | succ n ih =>
    cases t with
    | nil => cases h
    | cons c t =>
      simp only [scanHex] at h
      split at h
      · obtain ⟨s', hs', rfl⟩ := Option.map_eq_some_iff.mp h
        exact (ih hs').cons
      · cases h

theorem scanUnicode_of {s : Scan Text} (h : scanUnicode t = some s) : s.Of t := by
  unfold scanUnicode at h
  split at h
  · rename_i cs
    have hdigits := scanWhile_of (fun c => (digitBelow? 16 c).isSome) cs
    dsimp only at h
    split at h
    · rename_i rest hrest
      rw [Scan.Of, hrest] at hdigits
      split at h
      · cases h
      · cases h
        exact ((hdigits.trans (Text.Leaves.refl rest).cons).ascii rfl).of_eq (Nat.add_comm _ _)
    · cases h
  · obtain ⟨s', hs', rfl⟩ := Option.map_eq_some_iff.mp h
    have hhex := scanHex_of hs'
    exact hhex

theorem utf8Size_of_digitBelow? {base : Nat} {c : Char} (h : (digitBelow? base c).isSome = true) :
    c.utf8Size = 1 := by
  have hvalue : (digitValue? c).isSome = true := by
    unfold digitBelow? at h
    cases hvalue : digitValue? c with
    | none => simp [hvalue] at h
    | some _ => rfl
  have hle : ∀ d : Char, d.val ≤ 127 → c ≤ d → c.utf8Size = 1 := fun d hd hc =>
    Char.utf8Size_eq_one_iff.mpr (UInt32.le_trans (Char.le_def.mp hc) hd)
  unfold digitValue? at hvalue
  split at hvalue
  · exact hle '9' (by decide) (by simp_all)
  split at hvalue
  · exact hle 'f' (by decide) (by simp_all)
  split at hvalue
  · exact hle 'F' (by decide) (by simp_all)
  · cases hvalue

theorem bytes_of_digits {base : Nat} {ds : Text}
    (h : ∀ d ∈ ds, (digitBelow? base d).isSome = true) : ds.bytes = ds.length := by
  induction ds with
  | nil => rfl
  | cons d ds ih =>
    obtain ⟨hd, hds⟩ := List.forall_mem_cons.mp h
    rw [Text.bytes_cons, utf8Size_of_digitBelow? hd, ih hds, List.length_cons, Nat.add_comm]

theorem scanOctal_of (t : Text) : (scanOctal t).Of t := by
  have htaken : ∀ taken : Text, taken <+: t.takeWhile (fun c => (digitBelow? 8 c).isSome) →
      t.Leaves taken.length (t.drop taken.length) := by
    intro taken htaken
    obtain ⟨rest, hrest⟩ := htaken.trans (List.takeWhile_prefix _)
    have hdigits : ∀ d ∈ taken, (digitBelow? 8 d).isSome = true :=
      fun d hd => List.all_eq_true.mp List.all_takeWhile d (htaken.subset hd)
    have hleaves := Text.Leaves.append taken rest
    rw [bytes_of_digits hdigits] at hleaves
    rw [← hrest, List.drop_left]
    exact hleaves
  simp only [scanOctal]
  split
  · exact htaken _ (List.take_prefix _ _)
  · exact htaken _ ((List.take_prefix _ _).trans (List.take_prefix _ _))

theorem scanEscape_of {s : Scan Text} (h : scanEscape t = some s) : s.Of t := by
  unfold scanEscape at h
  split at h
  · cases h
  · rename_i c cs
    have hsingle : Text.Leaves (c :: cs) c.utf8Size cs := (Text.Leaves.refl cs).cons
    dsimp only at h
    split at h
    iterate 6
      · cases h
        exact hsingle
    · obtain ⟨s', hs', rfl⟩ := Option.map_eq_some_iff.mp h
      have hhex := scanHex_of hs'
      exact hhex.cons
    · obtain ⟨s', hs', rfl⟩ := Option.map_eq_some_iff.mp h
      exact (scanUnicode_of hs').cons
    · split at h <;> cases h
      · exact hsingle.trans (Text.Leaves.refl _).cons
      · exact hsingle
    · split at h
      · cases h
        exact hsingle
      split at h
      · cases h
        have hoctal := scanOctal_of (c :: cs)
        exact hoctal
      · cases h
        exact hsingle

theorem scanStringFrom_of {quote : Char} {fuel : Nat} {s : Scan Text}
    (h : scanStringFrom quote fuel t = some s) : s.Of t := by
  induction fuel generalizing t s with
  | zero => cases h
  | succ fuel ih =>
    cases t with
    | nil =>
      cases h
      exact .refl _
    | cons c t =>
      simp only [scanStringFrom] at h
      split at h
      · cases h
        exact (Text.Leaves.refl t).cons
      split at h
      · rename_i hslash
        split at h
        · cases h
        · rename_i escape hescape
          obtain ⟨s', hs', rfl⟩ := Option.map_eq_some_iff.mp h
          have hread := (scanEscape_of hescape).trans (ih hs')
          exact (hread.ascii (by rw [hslash]; rfl)).of_eq (Nat.add_assoc _ _ _).symm
      split at h
      · cases h
      · obtain ⟨s', hs', rfl⟩ := Option.map_eq_some_iff.mp h
        exact (ih hs').cons

theorem scanChunkFrom_of {valid : Bool} {s : Scan Bool} (h : scanChunkFrom valid t = some s) :
    s.Of t := by
  fun_induction scanChunkFrom valid t generalizing s with
  | case1 => cases h
  | case2 =>
    cases h
    exact .refl _
  | case3 =>
    cases h
    exact .refl _
  | case4 =>
    rename_i ih
    obtain ⟨s', hs', rfl⟩ := Option.map_eq_some_iff.mp h
    exact ((ih hs').cons.ascii rfl).of_eq (Nat.add_assoc _ _ _).symm
  | case5 =>
    rename_i ih
    obtain ⟨s', hs', rfl⟩ := Option.map_eq_some_iff.mp h
    exact (ih hs').cons

theorem scanRegexFrom_of {inClass : Bool} {s : Scan Unit}
    (h : scanRegexFrom inClass t = some s) : s.Of t := by
  fun_induction scanRegexFrom inClass t generalizing s with
  | case1 => cases h
  | case2 => cases h
  | case3 inClass c cs hc ih =>
    obtain ⟨s', hs', rfl⟩ := Option.map_eq_some_iff.mp h
    exact ((ih hs').cons.ascii rfl).of_eq (Nat.add_assoc _ _ _).symm
  | case4 => cases h
  | case5 inClass c cs _ hline hc =>
    cases h
    have hslash : c = '/' := by simp_all
    exact (Text.Leaves.refl cs).ascii (by rw [hslash]; rfl)
  | case6 =>
    rename_i ih
    obtain ⟨s', hs', rfl⟩ := Option.map_eq_some_iff.mp h
    exact (ih hs').cons

theorem scanDigits_of (base : Nat) (t : Text) : (scanDigits base t).Of t :=
  scanWhile_of (fun c => c == '_' || (digitBelow? base c).isSome) t

/-- Whether a token is a number. -/
def Tok.isNumeric : Tok → Bool
  | .number _ | .bigint => true
  | _ => false

theorem finishInteger_of {value : Decimal.Double} {size : Nat} {s : Scan Tok}
    (h : finishInteger value size t = some s) :
    (∃ n, s.size = size + n ∧ t.Leaves n s.rest) ∧ s.value.isNumeric = true := by
  unfold finishInteger at h
  split at h <;> split at h <;> cases h
  · exact ⟨⟨1, rfl, (Text.Leaves.refl _).cons⟩, rfl⟩
  · exact ⟨⟨0, rfl, .refl _⟩, rfl⟩

theorem scanRadix_of {base : Nat} {s : Scan Tok} (h : scanRadix base t = some s) :
    (∃ n, s.size = 2 + n ∧ t.Leaves n s.rest) ∧ s.value.isNumeric = true := by
  simp only [scanRadix] at h
  split at h
  · cases h
  · obtain ⟨⟨n, hsize, hread⟩, hvalue⟩ := finishInteger_of h
    exact ⟨⟨_, by rw [hsize, Nat.add_assoc], (scanDigits_of base t).trans hread⟩, hvalue⟩

theorem splitSign_of (t : Text) : t.Leaves (splitSign t).2.1 (splitSign t).2.2 := by
  unfold splitSign
  split
  · exact (Text.Leaves.refl _).cons
  · exact (Text.Leaves.refl _).cons
  · exact .refl _

theorem scanExponent_of {s : Scan Int} (h : scanExponent t = some s) : s.Of t := by
  cases t with
  | nil =>
    cases h
    exact .refl _
  | cons c t =>
    rw [scanExponent_cons] at h
    split at h
    · rename_i hc
      dsimp only at h
      split at h
      · cases h
      · cases h
        have hread := (splitSign_of t).trans (scanDigits_of 10 (splitSign t).2.2)
        have hmark : c.utf8Size = 1 := by
          rcases Bool.or_eq_true_iff.mp hc with hc | hc <;> rw [beq_iff_eq.mp hc] <;> rfl
        exact (hread.ascii hmark).of_eq (Nat.add_assoc _ _ _).symm
    · cases h
      exact .refl _

theorem scanFraction_of (t : Text) : (scanFraction t).Of t := by
  unfold scanFraction
  split
  · exact (scanDigits_of 10 _).cons
  · exact .refl _

theorem scanDecimal_of {s : Scan Tok} (h : scanDecimal t = some s) :
    s.Of t ∧ s.value.isNumeric = true := by
  have hwhole := scanDigits_of 10 t
  by_cases hn : (scanDigits 10 t).rest.head? = some 'n'
  · obtain ⟨rest, hrest⟩ : ∃ rest, (scanDigits 10 t).rest = 'n' :: rest := by
      cases hrest : (scanDigits 10 t).rest <;> simp_all
    rw [scanDecimal_of_bigint hrest] at h
    split at h
    · cases h
    · obtain ⟨⟨n, hsize, hread⟩, hvalue⟩ := finishInteger_of h
      rw [Scan.Of, hrest] at hwhole
      exact ⟨(hwhole.trans hread).of_eq hsize.symm, hvalue⟩
  · rw [scanDecimal_of_head? hn] at h
    dsimp only at h
    split at h
    · cases h
    · obtain ⟨exponent, hexponent, h⟩ := Option.bind_eq_some_iff.mp h
      split at h <;> cases h
      exact ⟨(hwhole.trans (scanFraction_of _)).trans (scanExponent_of hexponent), rfl⟩

theorem scanNumber_of {s : Scan Tok} (h : scanNumber t = some s) :
    s.Of t ∧ s.value.isNumeric = true := by
  unfold scanNumber at h
  split at h
  · rename_i c cs
    have hradix : ∀ base, c.utf8Size = 1 → scanRadix base cs = some s →
        s.Of ('0' :: c :: cs) ∧ s.value.isNumeric = true := by
      intro base hc h
      obtain ⟨⟨n, hsize, hread⟩, hvalue⟩ := scanRadix_of h
      exact ⟨((hread.ascii hc).ascii rfl).of_eq (by omega), hvalue⟩
    have hletter : ∀ a b : Char, a.utf8Size = 1 → b.utf8Size = 1 →
        (c == a || c == b) = true → c.utf8Size = 1 := by
      intro a b ha hb hc
      rcases Bool.or_eq_true_iff.mp hc with hc | hc <;> rw [beq_iff_eq.mp hc] <;> assumption
    split at h
    · exact hradix 16 (hletter 'x' 'X' rfl rfl ‹_›) h
    split at h
    · exact hradix 8 (hletter 'o' 'O' rfl rfl ‹_›) h
    split at h
    · exact hradix 2 (hletter 'b' 'B' rfl rfl ‹_›) h
    split at h
    · dsimp only at h
      split at h <;> cases h
      exact ⟨(scanDigits_of 8 (c :: cs)).cons, rfl⟩
    · exact scanDecimal_of h
  · exact scanDecimal_of h

theorem findPunct_of {table : List (String × Punct)}
    (htable : ∀ entry ∈ table, Text.bytes entry.1.toList = entry.1.length) {s : Scan Tok}
    (h : findPunct t table = some s) :
    s.Of t ∧ ∃ entry ∈ table, s.value = .punct entry.2 ∧ s.size = entry.1.length := by
  induction table with
  | nil => cases h
  | cons entry table ih =>
    obtain ⟨hentry, htable⟩ := List.forall_mem_cons.mp htable
    have hlater : findPunct t table = some s →
        s.Of t ∧ ∃ e ∈ entry :: table, s.value = .punct e.2 ∧ s.size = e.1.length := by
      intro h
      obtain ⟨hread, e, he, hvalue⟩ := ih htable h
      exact ⟨hread, e, List.mem_cons_of_mem _ he, hvalue⟩
    simp only [findPunct] at h
    split at h
    · rename_i rest hrest
      split at h
      · cases h
        exact ⟨(Text.leaves_of_stripStart? hrest).of_eq hentry, entry, List.mem_cons_self, rfl, rfl⟩
      · exact hlater h
    · exact hlater h

/-- A brace is one byte long. -/
theorem scanPunct_of {s : Scan Tok} (h : scanPunct t = some s) :
    s.Of t ∧ (s.value = .punct .lbrace ∨ s.value = .punct .rbrace → s.size = 1) := by
  obtain ⟨hread, entry, hentry, hvalue, hsize⟩ := findPunct_of (by decide) h
  have hbraces : ∀ e ∈ punctuators, e.2 = .lbrace ∨ e.2 = .rbrace → e.1.length = 1 := by decide
  exact ⟨hread, fun hbrace => hsize ▸ hbraces entry hentry (by simpa [hvalue] using hbrace)⟩

theorem scanWordChar_of {p : Char → Bool} {s : Scan (Char × Bool)}
    (h : scanWordChar p t = some s) : s.Of t := by
  unfold scanWordChar at h
  split at h
  · split at h
    · rename_i hunicode
      have hread := scanUnicode_of hunicode
      split at h
      · cases h
        exact ((hread.ascii rfl).ascii rfl).of_eq (Nat.add_assoc 1 1 _).symm
      · cases h
    · cases h
  · cases h
  · split at h
    · cases h
      exact (Text.Leaves.refl _).cons
    · cases h
  · cases h

theorem scanWordRest_of {fuel : Nat} {s : Scan (Text × Bool)}
    (h : scanWordRest fuel t = some s) : s.Of t := by
  induction fuel generalizing t s with
  | zero => cases h
  | succ fuel ih =>
    simp only [scanWordRest] at h
    split at h
    · rename_i first hfirst
      obtain ⟨s', hs', rfl⟩ := Option.map_eq_some_iff.mp h
      exact (scanWordChar_of hfirst).trans (ih hs')
    · split at h
      · cases h
      · cases h
        exact .refl _

theorem scanWord_of {s : Scan (Text × Bool)} (h : scanWord t = some s) :
    s.Of t ∧ s.rest.length < t.length := by
  simp only [scanWord, Option.bind_eq_bind, Option.bind_eq_some_iff, Option.pure_def,
    Option.some.injEq] at h
  obtain ⟨first, hfirst, s', hs', rfl⟩ := h
  have hlen := scanWordRest_length hs'
  exact ⟨(scanWordChar_of hfirst).trans (scanWordRest_of hs'),
    Nat.lt_of_le_of_lt hlen (scanWordChar_length hfirst)⟩

theorem scanName_of {s : Scan Tok} (h : scanName t = some s) :
    s.Of t ∧ s.rest.length < t.length ∧ ∀ p, s.value ≠ .punct p := by
  obtain ⟨word, hword, h⟩ := Option.bind_eq_some_iff.mp h
  obtain ⟨hread, hlen⟩ := scanWord_of hword
  split at h
  · split at h <;> cases h
    exact ⟨hread, hlen, fun p => nofun⟩
  · cases h
    exact ⟨hread, hlen, fun p => nofun⟩

/-- A token that was read off a text takes up some of it, unless the text is at its end. A brace is
one byte long. -/
structure Scan.Sound (s : Scan Tok) (t : Text) : Prop where
  read : s.Of t
  proper : s.value ≠ .eof → 0 < s.size
  brace : s.value = .punct .lbrace ∨ s.value = .punct .rbrace → s.size = 1

theorem scanToken_sound {operand : Bool} {s : Scan Tok} (h : scanToken operand t = some s) :
    s.Sound t := by
  cases t with
  | nil =>
    cases h
    exact ⟨.refl _, fun heof => absurd rfl heof, by rintro (hbrace | hbrace) <;> cases hbrace⟩
  | cons c cs =>
    rw [scanToken] at h
    split at h
    · obtain ⟨hread, hlen, hvalue⟩ := scanName_of h
      exact ⟨hread, fun _ => hread.pos hlen,
        fun hbrace => hbrace.elim (absurd · (hvalue _)) (absurd · (hvalue _))⟩
    split at h
    · obtain ⟨hread, hvalue⟩ := scanNumber_of h
      refine ⟨hread, fun _ => hread.pos (scanNumber_reads h).1, ?_⟩
      rintro (hbrace | hbrace) <;> rw [hbrace] at hvalue <;> cases hvalue
    split at h
    · rename_i hquote
      obtain ⟨s', hs', rfl⟩ := Option.map_eq_some_iff.mp h
      have hc : c.utf8Size = 1 := by
        rcases Bool.or_eq_true_iff.mp hquote with hc | hc <;> rw [beq_iff_eq.mp hc] <;> rfl
      have hread := (scanStringFrom_of hs').ascii hc
      exact ⟨hread, fun _ => Nat.add_pos_left Nat.one_pos _,
        by rintro (hbrace | hbrace) <;> cases hbrace⟩
    split at h
    · rename_i hmark
      obtain ⟨s', hs', rfl⟩ := Option.map_eq_some_iff.mp h
      have hc : c.utf8Size = 1 := by
        rw [beq_iff_eq.mp hmark]
        rfl
      have hread := (scanWord_of hs').1.ascii hc
      exact ⟨hread, fun _ => Nat.add_pos_left Nat.one_pos _,
        by rintro (hbrace | hbrace) <;> cases hbrace⟩
    split at h
    · rename_i hslash
      obtain ⟨body, hbody, rfl⟩ := Option.map_eq_some_iff.mp h
      have hc : c.utf8Size = 1 := by
        rw [beq_iff_eq.mp (Bool.and_eq_true_iff.mp hslash).1]
        rfl
      have hread := ((scanRegexFrom_of hbody).trans (scanWhile_of isNamePart body.rest)).ascii hc
      exact ⟨hread.of_eq (Nat.add_assoc _ _ _).symm,
        fun _ => Nat.add_pos_left (Nat.add_pos_left Nat.one_pos _) _,
        by rintro (hbrace | hbrace) <;> cases hbrace⟩
    · obtain ⟨hread, hbrace⟩ := scanPunct_of h
      exact ⟨hread, fun _ => hread.pos (scanPunct_reads h).1, hbrace⟩

theorem scanChunkFrom_size {valid : Bool} {s : Scan Bool} (h : scanChunkFrom valid t = some s)
    (hback : ∀ cs, t ≠ '\x60' :: cs) (hhole : ∀ cs, t ≠ '$' :: '\x7b' :: cs) : 0 < s.size := by
  unfold scanChunkFrom at h
  split at h
  · cases h
  · exact absurd rfl (hback _)
  · exact absurd rfl (hhole _)
  · obtain ⟨s', -, rfl⟩ := Option.map_eq_some_iff.mp h
    exact Nat.add_pos_left (Nat.add_pos_left Nat.one_pos _) _
  · obtain ⟨s', -, rfl⟩ := Option.map_eq_some_iff.mp h
    exact Nat.add_pos_left (Char.utf8Size_pos _) _

theorem scanTemplate_sound {s : Scan Tok} (h : scanTemplate t = some s) : s.Sound t := by
  unfold scanTemplate at h
  split at h
  · cases h
    exact ⟨(Text.Leaves.refl _).cons, fun _ => Nat.one_pos, fun _ => rfl⟩
  · cases h
    exact ⟨(Text.Leaves.refl _).cons.cons, fun _ => Nat.two_pos,
      by rintro (hbrace | hbrace) <;> cases hbrace⟩
  · rename_i hback hhole
    obtain ⟨s', hs', rfl⟩ := Option.map_eq_some_iff.mp h
    exact ⟨scanChunkFrom_of hs', fun _ => scanChunkFrom_size hs' hback hhole,
      by rintro (hbrace | hbrace) <;> cases hbrace⟩

/-- Trivia that has been read off a text, after `size` bytes. -/
def Trivia.Of (r : Trivia) (size : Nat) (t : Text) : Prop :=
  ∃ n, r.size = size + n ∧ t.Leaves n r.rest

theorem Trivia.Of.before {r : Trivia} {size k : Nat} {u : Text} (h : r.Of (size + k) u)
    (hread : t.Leaves k u) : r.Of size t := by
  obtain ⟨n, hsize, hrest⟩ := h
  exact ⟨k + n, by rw [hsize, Nat.add_assoc], hread.trans hrest⟩

theorem scanTriviaFrom_of (mode : TriviaMode) (pos : Nat) (fresh : Bool)
    (found : List PlacedComment) (size : Nat) (t : Text) :
    (scanTriviaFrom mode pos fresh found size t).Of size t := by
  fun_induction scanTriviaFrom mode pos fresh found size t
  all_goals first
    | exact ⟨0, rfl, .refl _⟩
    | exact Trivia.Of.before ‹_› (Text.Leaves.refl _).cons
    | exact Trivia.Of.before ‹_› (Text.Leaves.refl _).cons.cons
    | skip
  -- the slash that closes a comment
  rename_i hclose _ ih
  have hslash : ∀ c : Char, (c = '/') → c.utf8Size = 1 := fun c hc => hc ▸ rfl
  exact ih.before ((Text.Leaves.refl _).ascii (hslash _ (by simp_all)))

/-- The state of the lexer somewhere in a text. -/
def LexState.In (s : LexState) (t : Text) : Prop := t.Leaves s.pos s.rest

namespace LexState

variable {s : LexState}

theorem trivia_of (s : LexState) : s.trivia.Of 0 s.rest := by
  unfold trivia
  split
  · exact ⟨0, rfl, .refl _⟩
  · exact scanTriviaFrom_of _ _ _ _ _ _

theorem scan_sound {u : Text} {found : Scan Tok} (h : s.scan u = some found) : found.Sound u := by
  unfold scan at h
  split at h
  · exact scanTemplate_sound h
  · exact scanToken_sound h

/-- The next token stands behind the last one, and the state after it right behind it. -/
theorem lexToken_sound (h : s.In t) :
    (lexToken s).1.Sound (t.isBoundary · = true) ∧ s.pos ≤ (lexToken s).1.span.start ∧
      ((lexToken s).1.tok ≠ .invalid →
        (lexToken s).2.In t ∧ (lexToken s).2.pos = (lexToken s).1.span.stop) := by
  obtain ⟨n, hsize, hrest⟩ := s.trivia_of
  rw [Nat.zero_add] at hsize
  have hstart : t.Leaves (s.pos + s.trivia.size) s.trivia.rest := hsize ▸ h.trans hrest
  rw [lexToken_eq]
  cases hfound : s.found? s.trivia with
  | none =>
    refine ⟨⟨hstart.isBoundary, hstart.isBoundary, Nat.le_refl _, fun _ h => absurd rfl h, ?_⟩,
      Nat.le_add_right _ _, fun h => absurd rfl h⟩
    rintro (hbrace | hbrace) <;> cases hbrace
  | some found =>
    have hscan : s.scan s.trivia.rest = some found := by
      unfold found? at hfound
      split at hfound
      · cases hfound
      · exact hfound
    have hsound := scan_sound hscan
    have hstop : t.Leaves (s.pos + s.trivia.size + found.size) found.rest :=
      hstart.trans hsound.read
    exact ⟨⟨hstart.isBoundary, hstop.isBoundary, Nat.le_add_right _ _,
        fun heof _ => Nat.lt_add_of_pos_right (hsound.proper heof),
        fun hbrace => congrArg (s.pos + s.trivia.size + ·) (hsound.brace hbrace)⟩,
      Nat.le_add_right _ _, fun _ => ⟨hstop, rfl⟩⟩

theorem lexFrom_sound {fuel : Nat} (h : s.In t) :
    Cursor.Sound (t.isBoundary · = true) ⟨lexFrom fuel s, s.pos⟩ := by
  induction fuel generalizing s with
  | zero => exact ⟨h.isBoundary, by simp [lexFrom], by simp [lexFrom], .nil⟩
  | succ fuel ih =>
    obtain ⟨htoken, hbehind, hnext⟩ := lexToken_sound h
    rw [lexFrom_succ]
    split
    · exact ⟨h.isBoundary, by simpa using hbehind, by simpa using htoken,
        List.pairwise_singleton _ _⟩
    · rename_i hend
      obtain ⟨hin, hpos⟩ := hnext fun hinvalid => hend (.inr hinvalid)
      have hrest := ih hin
      have hafter : ∀ u ∈ lexFrom fuel (lexToken s).2, (lexToken s).1.span.stop ≤ u.span.start :=
        fun u hu => hpos ▸ hrest.behind u hu
      refine ⟨h.isBoundary, List.forall_mem_cons.mpr ⟨hbehind, fun u hu => ?_⟩,
        List.forall_mem_cons.mpr ⟨htoken, hrest.tokens⟩,
        List.pairwise_cons.mpr ⟨hafter, hrest.ordered⟩⟩
      exact Nat.le_trans hbehind (Nat.le_trans htoken.le (hafter u hu))

end LexState

theorem skipHashbang_of (t : Text) : (skipHashbang t).Of t := by
  unfold skipHashbang
  split
  · rename_i cs
    have hline := scanWhile_of (fun c => !isLineBreak c) cs
    exact ((hline.ascii rfl).ascii rfl).of_eq (Nat.add_assoc 1 1 _).symm
  · exact .refl _

/-- The tokens of a text stand in it, one after the other. -/
theorem lex_sound (t : Text) : Cursor.Sound (t.isBoundary · = true) ⟨lex t, 0⟩ := by
  have hstart : LexState.In ⟨(skipHashbang t).size, (skipHashbang t).rest, none, true, []⟩ t :=
    skipHashbang_of t
  obtain ⟨-, -, htokens, hordered⟩ := @LexState.lexFrom_sound t _ (t.length + 1) hstart
  exact ⟨(Text.Leaves.refl t).isBoundary, fun _ _ => Nat.zero_le _, htokens, hordered⟩

/-- The items of a module stand in its text, one after the other. -/
theorem exists_row_of_parseModule {code : Text} {items : List Item}
    (h : parseModule .javaScript code = some items) :
    ∃ stop, Node.Row ((withoutMark code).isBoundary · = true) 0 stop (items.map Item.node) :=
  exists_row_of_parseTokens (lex_sound _) h

end Script

end StoryExports
