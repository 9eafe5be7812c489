/-
Guildhall/Proofs/Bearer.lean

The grammar of an `Authorization` header.  A header that carries a token is five parts in
a row,

    white space, the scheme, white space, the token, white space

where the scheme stands in any letter case, the white space behind it is there, and the
token is not empty and neither begins nor ends with white space; what is inside it does
not matter (`Layout.Of`).

The steps that look for the token find these parts and no others.  Trimming takes the
first and the last one away (`Layout.Of.trimBy`), and cutting at the first white space
leaves the scheme and the token (`Layout.Of.split?`).  So a header has one layout at most,
and the token in it is trimmed before it is trimmed again.

Main statements: `token?_eq_some` and `credential_grammar`.
-/
import Guildhall.Bearer
import Guildhall.Proofs.Trimming
import Mathlib.Data.Bool.AllAny
import Mathlib.Data.List.Forall2

namespace Guildhall.Bearer

/-! ### Letter case -/

theorem toNat_toLower (c : Char) :
    c.toLower.toNat = if 65 ≤ c.toNat ∧ c.toNat ≤ 90 then c.toNat + 32 else c.toNat := by
  unfold Char.toLower Char.toNat
  split
  · rename_i h
    have h : 65 ≤ c.val.toNat ∧ c.val.toNat ≤ 90 := h
    rw [if_pos h, UInt32.toNat_add]
    show (c.val.toNat + 32) % _ = _
    omega
  · rename_i h
    exact (if_neg h).symm

theorem toNat_toUpper (c : Char) :
    c.toUpper.toNat = if 97 ≤ c.toNat ∧ c.toNat ≤ 122 then c.toNat - 32 else c.toNat := by
  unfold Char.toUpper Char.toNat
  split
  · rename_i h
    have h : 97 ≤ c.val.toNat ∧ c.val.toNat ≤ 122 := h
    rw [if_pos h, UInt32.toNat_add]
    show (c.val.toNat + 4294967264) % _ = _
    omega
  · rename_i h
    exact (if_neg h).symm

/-- The lower case is a small letter for that letter and its capital only. -/
theorem toLower_eq_iff {c d : Char} (hd : 97 ≤ d.toNat ∧ d.toNat ≤ 122) :
    c.toLower = d ↔ c = d ∨ c = d.toUpper := by
  rw [← Char.toNat_inj, ← Char.toNat_inj, ← Char.toNat_inj, toNat_toLower, toNat_toUpper,
    if_pos hd]
  split <;> omega

theorem map_toLower_eq_iff {cs ds : List Char} (hds : ∀ d ∈ ds, 97 ≤ d.toNat ∧ d.toNat ≤ 122) :
    cs.map Char.toLower = ds ↔ List.Forall₂ (fun c d => c = d ∨ c = d.toUpper) cs ds := by
  induction ds generalizing cs with
  | nil => rw [List.map_eq_nil_iff, List.forall₂_nil_right_iff]
  | cons d ds ih =>
    obtain ⟨hd, hds⟩ := List.forall_mem_cons.1 hds
    cases cs with
    | nil => exact iff_of_false nofun nofun
    | cons c cs =>
      rw [List.map_cons, List.cons.injEq, List.forall₂_cons, toLower_eq_iff hd, ih hds]

/-- The scheme, each letter of it small or a capital. -/
def IsScheme (word : String) : Prop :=
  List.Forall₂ (fun c d => c = d ∨ c = d.toUpper) word.toList scheme.toList

theorem lower_eq_scheme_iff {word : String} : Text.lower word = scheme ↔ IsScheme word := by
  have hletters : ∀ d ∈ scheme.toList, 97 ≤ d.toNat ∧ d.toNat ≤ 122 :=
    List.all_iff_forall_prop.1 (by decide)
  unfold Text.lower
  rw [← String.toList_inj, String.toList_ofList, map_toLower_eq_iff hletters]
  rfl

theorem IsScheme.ne_nil {word : String} (h : IsScheme word) : word.toList ≠ [] := by
  intro hnil
  rw [IsScheme, hnil] at h
  cases h

theorem exists_mem_of_forall₂ {R : Char → Char → Prop} {cs ds : List Char}
    (h : List.Forall₂ R cs ds) : ∀ c ∈ cs, ∃ d ∈ ds, R c d := by
  induction h with
  | nil => exact List.forall_mem_nil _
  | cons hcd _ ih =>
    refine List.forall_mem_cons.2 ⟨⟨_, List.mem_cons_self, hcd⟩, fun c hc => ?_⟩
    obtain ⟨d, hd, h⟩ := ih c hc
    exact ⟨d, List.mem_cons_of_mem _ hd, h⟩

/-- There is no white space in the scheme. -/
theorem IsScheme.not_isBlank {word : String} (h : IsScheme word) :
    ∀ c ∈ word.toList, Text.isBlank c = false := by
  have hletters : ∀ d ∈ scheme.toList,
      Text.isBlank d = false ∧ Text.isBlank d.toUpper = false :=
    List.all_iff_forall_prop.1 (by decide)
  intro c hc
  obtain ⟨d, hd, rfl | rfl⟩ := exists_mem_of_forall₂ h c hc
  · exact (hletters c hd).1
  · exact (hletters d hd).2

/-! ### Cutting at white space -/

section Cutting

variable {cs word rest : List Char}

/-- A cut leaves a word in front of some white space, and a text behind it that does not
begin with white space; nothing is cut that has no such text. -/
theorem split?_eq_some :
    split? cs = some (word, rest) ↔
      ∃ gap, cs = word ++ gap ++ rest ∧ (∀ c ∈ word, Text.isBlank c = false) ∧
        gap ≠ [] ∧ (∀ c ∈ gap, Text.isBlank c = true) ∧
        rest ≠ [] ∧ ∀ c ∈ rest.head?, Text.isBlank c = false := by
  have hcut : split? cs = some (word, rest) ↔
      (cutBlank cs).2 ≠ [] ∧ (cutBlank cs).1 = word ∧ (cutBlank cs).2 = rest := by
    unfold split?
    dsimp only
    split
    · rename_i hempty
      exact iff_of_false nofun fun h => h.1 (List.isEmpty_iff.1 hempty)
    · rename_i hempty
      rw [Option.some.injEq, Prod.mk.injEq]
      exact (and_iff_right (mt List.isEmpty_iff.2 hempty)).symm
  rw [hcut]
  constructor
  · rintro ⟨hne, rfl, rfl⟩
    refine ⟨(cs.dropWhile (!Text.isBlank ·)).takeWhile Text.isBlank, ?_, ?_, ?_, ?_, hne,
      Text.head?_dropWhile _⟩
    · rw [cutBlank, List.append_assoc, List.takeWhile_append_dropWhile,
        List.takeWhile_append_dropWhile]
    · intro c hc
      simpa using List.all_eq_true.1 List.all_takeWhile c hc
    · -- What the word stops at is white space, if anything is left at all.
      intro hgap
      cases hleft : cs.dropWhile (!Text.isBlank ·) with
      | nil =>
        rw [cutBlank, hleft] at hne
        exact hne rfl
      | cons c left =>
        have hc : Text.isBlank c = true := by
          have h := Text.head?_dropWhile (p := (!Text.isBlank ·)) cs c (by rw [hleft]; rfl)
          simpa using h
        rw [hleft, List.takeWhile_cons_of_pos hc] at hgap
        cases hgap
    · exact fun c hc => List.all_eq_true.1 List.all_takeWhile c hc
  · rintro ⟨gap, rfl, hword, hgap, hblank, hrest, hhead⟩
    obtain ⟨g, gap, rfl⟩ := List.exists_cons_of_ne_nil hgap
    have hg : (!Text.isBlank g) = false := by rw [hblank g List.mem_cons_self]; rfl
    have hword' : ∀ c ∈ word, (!Text.isBlank c) = true := fun c hc => by rw [hword c hc]; rfl
    have hfirst : (word ++ (g :: gap) ++ rest).takeWhile (!Text.isBlank ·) = word := by
      rw [List.append_assoc, List.takeWhile_append_of_pos hword', List.cons_append,
        List.takeWhile_cons_of_neg (by rw [hg]; exact Bool.false_ne_true), List.append_nil]
    have hlast : ((word ++ (g :: gap) ++ rest).dropWhile (!Text.isBlank ·)).dropWhile
        Text.isBlank = rest := by
      rw [List.append_assoc, List.dropWhile_append_of_pos hword', List.cons_append,
        List.dropWhile_cons_of_neg (by rw [hg]; exact Bool.false_ne_true), ← List.cons_append,
        List.dropWhile_append_of_pos hblank, Text.dropWhile_of_head? hhead]
    exact ⟨by rwa [cutBlank, hlast], hfirst, hlast⟩

/-- What is cut from the end of a trimmed text is trimmed. -/
theorem trimBy_rest (hcut : split? (Text.trimBy Text.isBlank cs) = some (word, rest)) :
    Text.trimBy Text.isBlank rest = rest := by
  obtain ⟨gap, hcs, -, -, -, hne, hhead⟩ := split?_eq_some.1 hcut
  refine Text.trimBy_of_ends hhead fun c hc => Text.getLast?_trimBy cs c ?_
  rw [hcs, List.getLast?_append_of_ne_nil _ hne]
  exact hc

end Cutting

/-! ### Layouts -/

/-- The parts of a header. -/
structure Layout where
  before : String
  word : String
  gap : String
  token : String
  after : String

/-- The parts are those of a header that carries a token. -/
structure Layout.Of (l : Layout) (header : String) : Prop where
  text : header = l.before ++ l.word ++ l.gap ++ l.token ++ l.after
  before : ∀ c ∈ l.before.toList, Text.isBlank c = true
  word : IsScheme l.word
  gap_ne : l.gap ≠ ""
  gap : ∀ c ∈ l.gap.toList, Text.isBlank c = true
  token_ne : l.token ≠ ""
  token : Text.IsTrimmed l.token
  after : ∀ c ∈ l.after.toList, Text.isBlank c = true

namespace Layout

variable {l l' : Layout} {header : String}

/-- The parts between the white space at the ends. -/
def core (l : Layout) : List Char := l.word.toList ++ l.gap.toList ++ l.token.toList

theorem Of.toList_eq (h : l.Of header) :
    header.toList = l.before.toList ++ l.core ++ l.after.toList := by
  rw [h.text]
  simp only [core, String.toList_append, List.append_assoc]

theorem Of.core_ne_nil (h : l.Of header) : l.core ≠ [] := by
  unfold core
  rw [List.append_assoc]
  exact List.append_ne_nil_of_left_ne_nil h.word.ne_nil _

theorem Of.head?_core (h : l.Of header) : ∀ c ∈ l.core.head?, Text.isBlank c = false := by
  intro c hc
  unfold core at hc
  rw [List.append_assoc, List.head?_append_of_ne_nil _ h.word.ne_nil] at hc
  exact h.word.not_isBlank c (List.mem_of_mem_head? hc)

theorem Of.token_ne_nil (h : l.Of header) : l.token.toList ≠ [] :=
  mt String.toList_eq_nil_iff.1 h.token_ne

/-- Trimming takes the white space at the ends away. -/
theorem Of.trimBy (h : l.Of header) : Text.trimBy Text.isBlank header.toList = l.core := by
  rw [h.toList_eq]
  refine Text.trimBy_append h.before h.after h.core_ne_nil h.head?_core fun c hc => ?_
  unfold core at hc
  rw [List.getLast?_append_of_ne_nil _ h.token_ne_nil] at hc
  exact h.token.last c hc

/-- Cutting leaves the scheme and the token. -/
theorem Of.split? (h : l.Of header) :
    split? (Text.trimBy Text.isBlank header.toList) = some (l.word.toList, l.token.toList) := by
  rw [h.trimBy]
  exact split?_eq_some.2 ⟨l.gap.toList, rfl, h.word.not_isBlank,
    mt String.toList_eq_nil_iff.1 h.gap_ne, h.gap, h.token_ne_nil, h.token.head⟩

/-- **A header has one layout at most.** -/
theorem Of.unique (h : l.Of header) (h' : l'.Of header) : l = l' := by
  obtain ⟨hword, htoken⟩ := Prod.mk.inj (Option.some.inj (h.split?.symm.trans h'.split?))
  have hcore : l.core = l'.core := h.trimBy.symm.trans h'.trimBy
  have hgap : l.gap.toList = l'.gap.toList := by
    unfold core at hcore
    rw [hword, htoken] at hcore
    exact List.append_cancel_left (List.append_cancel_right hcore)
  -- The white space in front ends where the scheme begins.
  have hfront : ∀ {k : Layout}, k.Of header →
      header.toList.takeWhile Text.isBlank = k.before.toList := by
    intro k hk
    obtain ⟨c, cs, hcs⟩ := List.exists_cons_of_ne_nil hk.core_ne_nil
    have hc : Text.isBlank c = false := hk.head?_core c (by rw [hcs]; rfl)
    rw [hk.toList_eq, List.append_assoc, List.takeWhile_append_of_pos hk.before, hcs,
      List.cons_append, List.takeWhile_cons_of_neg (by rw [hc]; exact Bool.false_ne_true),
      List.append_nil]
  have hbefore : l.before.toList = l'.before.toList := (hfront h).symm.trans (hfront h')
  have hafter : l.after.toList = l'.after.toList := by
    have htext := h.toList_eq.symm.trans h'.toList_eq
    rw [hbefore, hcore] at htext
    exact List.append_cancel_left htext
  obtain ⟨before, word, gap, token, after⟩ := l
  obtain ⟨before', word', gap', token', after'⟩ := l'
  obtain rfl := String.toList_inj.1 hbefore
  obtain rfl := String.toList_inj.1 hword
  obtain rfl := String.toList_inj.1 hgap
  obtain rfl := String.toList_inj.1 htoken
  obtain rfl := String.toList_inj.1 hafter
  rfl

end Layout

/-! ### Tokens -/

section Tokens

variable {header token : String}

/-- A header whose first word is the scheme has the layout that was cut. -/
theorem exists_layout {word rest : List Char}
    (hcut : split? (Text.trimBy Text.isBlank header.toList) = some (word, rest))
    (hword : IsScheme (String.ofList word)) :
    ∃ l : Layout, l.Of header ∧ l.token = String.ofList rest := by
  obtain ⟨gap, hcs, -, hgap, hblank, hne, hhead⟩ := split?_eq_some.1 hcut
  obtain ⟨before, after, htext, hbefore, hafter⟩ := Text.trimBy_spec Text.isBlank header.toList
  refine ⟨⟨String.ofList before, String.ofList word, String.ofList gap, String.ofList rest,
    String.ofList after⟩, ?_, rfl⟩
  refine ⟨?_, by rwa [String.toList_ofList], hword, ?_, by rwa [String.toList_ofList], ?_,
    ?_, by rwa [String.toList_ofList]⟩
  · rw [← String.toList_inj, htext, hcs]
    simp only [String.toList_append, String.toList_ofList, List.append_assoc]
  · exact fun h => hgap (by simpa using congrArg String.toList h)
  · exact fun h => hne (by simpa using congrArg String.toList h)
  · refine ⟨by rwa [String.toList_ofList], ?_⟩
    rw [String.toList_ofList, ← trimBy_rest hcut]
    exact Text.getLast?_trimBy _

/-- **The token of a header is the one of its layout.** -/
theorem token?_eq_some :
    token? header = some token ↔ ∃ l : Layout, l.Of header ∧ l.token = token := by
  unfold token?
  constructor
  · intro h
    split at h
    · cases h
    · rename_i word rest hcut
      split at h
      · cases h
      · rename_i hlower
        obtain ⟨l, hl, htoken⟩ := exists_layout hcut (lower_eq_scheme_iff.1 (not_not.1 hlower))
        dsimp only at h
        rw [trimBy_rest hcut] at h
        split at h
        · cases h
        · exact ⟨l, hl, htoken.trans (Option.some.inj h)⟩
  · rintro ⟨l, hl, rfl⟩
    have hlower : Text.lower (String.ofList l.word.toList) = scheme := by
      rw [String.ofList_toList]
      exact lower_eq_scheme_iff.2 hl.word
    have hempty : ¬l.token.toList.isEmpty = true := mt List.isEmpty_iff.1 hl.token_ne_nil
    rw [hl.split?]
    dsimp only
    rw [hlower, if_neg (not_not_intro rfl), Text.trimBy_of_ends hl.token.head hl.token.last,
      if_neg hempty, String.ofList_toList]

theorem credential_eq_ok : credential (some header) = .ok token ↔ token? header = some token := by
  unfold credential
  rw [Option.bind_some]
  cases token? header <;> simp

theorem credential_eq_error {denial : Denial} :
    credential (some header) = .error denial ↔
      denial = .invalidCredential ∧ token? header = none := by
  unfold credential
  rw [Option.bind_some]
  cases token? header <;> simp [eq_comm]

/-- **The grammar of a header.**  A token is found if and only if the header has a layout
with it, and there is one layout at most.  Every other header is denied, and so is a header
that is missing.  A token that is not empty before the last look at it is not empty then. -/
theorem credential_grammar (header : String) :
    (∀ token, credential (some header) = .ok token ↔
        ∃ l : Layout, l.Of header ∧ l.token = token) ∧
      (∀ l l' : Layout, l.Of header → l'.Of header → l = l') ∧
      (∀ denial, credential (some header) = .error denial ↔
        denial = .invalidCredential ∧ ∀ l : Layout, ¬l.Of header) ∧
      credential none = .error .invalidCredential ∧
      ∀ word rest, split? (Text.trimBy Text.isBlank header.toList) = some (word, rest) →
        Text.trimBy Text.isBlank rest ≠ [] := by
  refine ⟨fun token => credential_eq_ok.trans token?_eq_some, fun l l' h h' => h.unique h',
    fun denial => ?_, rfl, fun word rest hcut => ?_⟩
  · rw [credential_eq_error, Option.eq_none_iff_forall_ne_some]
    refine and_congr_right fun _ => ⟨fun h l hl => h l.token (token?_eq_some.2 ⟨l, hl, rfl⟩), ?_⟩
    intro h token htoken
    obtain ⟨l, hl, -⟩ := token?_eq_some.1 htoken
    exact h l hl
  · obtain ⟨gap, -, -, -, -, hne, -⟩ := split?_eq_some.1 hcut
    rwa [trimBy_rest hcut]

end Tokens

namespace Hail

/-- White space of four kinds, letters of either case and a blank inside the token. -/
def layout : Layout := ⟨"\u00a0", "bEaReR", "\t\u2003", "two words", "\u3000\n"⟩

/-- The header of that layout. -/
def header : String := "\u00a0bEaReR\t\u2003two words\u3000\n"

theorem of_header : layout.Of header where
  text := by decide
  before := List.all_eq_true.1 (by decide)
  word := by
    unfold IsScheme
    decide
  gap_ne := by decide
  gap := List.all_eq_true.1 (by decide)
  token_ne := by decide
  token := by
    constructor
    all_goals
      rintro c ⟨⟩
      decide
  after := List.all_eq_true.1 (by decide)

end Hail

open Hail in
/-- The token of such a header is found, from its only layout and untouched by the last look
at it; a header with nothing but white space behind the scheme has none. -/
theorem credential_grammar_hail :
    credential (some header) = .ok "two words" ∧ (∀ l : Layout, l.Of header → l = layout) ∧
      Text.trimBy Text.isBlank "two words".toList ≠ [] ∧
      credential (some "Bearer\u2003\n") = .error .invalidCredential := by
  obtain ⟨hok, hunique, -, -, hkept⟩ := credential_grammar header
  obtain ⟨-, -, hdenied, -, -⟩ := credential_grammar "Bearer\u2003\n"
  refine ⟨(hok _).2 ⟨layout, of_header, rfl⟩, fun l hl => hunique l layout hl of_header,
    hkept _ _ of_header.split?, (hdenied _).2 ⟨rfl, fun l hl => ?_⟩⟩
  have hcut : split? (Text.trimBy Text.isBlank "Bearer\u2003\n".toList) = none := by decide
  exact nomatch hcut.symm.trans hl.split?

/-! ### Headers that are written -/

/-- The header of a token. -/
def header (token : String) : String := "Bearer " ++ token

theorem isScheme_bearer : IsScheme "Bearer" := by
  unfold IsScheme
  decide

/-- **The token of a header is taken out of it.** -/
theorem credential_header {token : String} (hne : token ≠ "")
    (hblank : ∀ c ∈ token.toList, Text.isBlank c = false) :
    credential (some (header token)) = .ok token := by
  have hlayout : Layout.Of ⟨"", "Bearer", " ", token, ""⟩ (header token) :=
    { text := by rw [String.append_empty]; rfl
      before := nofun
      word := isScheme_bearer
      gap_ne := (by decide : " " ≠ "")
      gap := List.all_eq_true.1 (by decide : " ".toList.all Text.isBlank = true)
      token_ne := hne
      token := ⟨fun c hc => hblank c (List.mem_of_mem_head? hc),
        fun c hc => hblank c (List.mem_of_mem_getLast? hc)⟩
      after := nofun }
  exact credential_eq_ok.2 (token?_eq_some.2 ⟨_, hlayout, rfl⟩)

end Guildhall.Bearer
