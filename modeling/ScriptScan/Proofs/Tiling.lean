import ScriptScan.Proofs.Scan
import ScriptScan.Proofs.Slices
import Mathlib.Logic.ExistsUnique
import Mathlib.Order.Monotone.Basic

/-! # Tokens tile the text

The stretches that the steps of a scan pass over lie end to end from the start of the text to its
end. Each is the text of its token, or the text of a string in its quotes, or a string that the
end of its line cuts off, of which the token holds the line end alone. So the tokens give back the
text but for the beginnings of strings that are cut off. -/

namespace ScriptScan
open Lexeme
open Text (byteLength slice?)

/-- The text that a token stands for: its own, with the quotes of a string put back. -/
def Token.written (t : Token) : Text :=
  if t.kind = .string then '"' :: t.text ++ ['"'] else t.text

/-- A byte position that the text a token stands for covers. -/
def Token.Covers (t : Token) (b : Nat) : Prop :=
  t.position ≤ b ∧ b < t.position + byteLength t.written

/-- How a token accounts for the bytes that its step passes over. -/
inductive Account
  | string | verbatim | cutOff

/-- The token accounts so for the bytes from `start` to `stop`. -/
def Account.Holds (source : Text) (start stop : Nat) (t : Token) : Account → Prop
  | string => t.kind = .string ∧ t.position = start ∧
      slice? source start stop = some ('"' :: t.text ++ ['"'])
  | verbatim => t.kind ≠ .string ∧ t.position = start ∧ slice? source start stop = some t.text
  | cutOff => t.kind = .bad ∧ (t.text = ['\n'] ∨ t.text = ['\r']) ∧ t.position + 1 = stop ∧
      ∃ content, slice? source start t.position = some ('"' :: content) ∧
        ∀ c ∈ content, c ≠ '"' ∧ c ≠ '\n' ∧ c ≠ '\r'

/-- No two accounts hold of one step: of a string that is cut off, the token starts later than
the step. -/
theorem Account.eq_of_holds {source : Text} {start stop : Nat} {t : Token} {a b : Account}
    (ha : a.Holds source start stop t) (hb : b.Holds source start stop t) : a = b := by
  have hcut : ∀ content, slice? source start start ≠ some ('"' :: content) := by
    intro content h
    obtain ⟨_, _, _, _, hlen⟩ := Text.slice?_eq_some_iff.mp h
    have : '"'.utf8Size = 1 := rfl
    simp only [Text.byteLength_cons] at hlen
    omega
  cases a <;> cases b
  case string.string | verbatim.verbatim | cutOff.cutOff => rfl
  case string.verbatim => exact absurd ha.1 hb.1
  case verbatim.string => exact absurd hb.1 ha.1
  case string.cutOff => exact absurd (ha.1.symm.trans hb.1) (by decide)
  case cutOff.string => exact absurd (hb.1.symm.trans ha.1) (by decide)
  case verbatim.cutOff =>
    obtain ⟨-, -, -, content, hs, -⟩ := hb
    rw [ha.2.1] at hs
    exact absurd hs (hcut content)
  case cutOff.verbatim =>
    obtain ⟨-, -, -, content, hs, -⟩ := ha
    rw [hb.2.1] at hs
    exact absurd hs (hcut content)

namespace Lexeme

/-- What a lexeme takes without its token showing it. -/
def discarded : Lexeme → Text
  | cutOff content _ => '"' :: content
  | _ => []

theorem lead_eq (l : Lexeme) : l.lead = byteLength l.discarded := by
  cases l <;> rfl

/-- No lexeme but a closed string has the kind of strings. -/
theorem kind_word_ne (text : Text) : (word text).kind ≠ .string := by
  rw [kind]
  split <;> simp

theorem discarded_append_written (l : Lexeme) (p : Nat) :
    l.discarded ++ (l.tokenAt p).written = l.spelling := by
  cases l with
  | quoted => simp [discarded, Token.written, tokenAt, kind, Lexeme.text, spelling]
  | word text => simp [discarded, Token.written, tokenAt, kind_word_ne, Lexeme.text, spelling]
  | number | blank | symbol | cutOff | openQuote | stray =>
    simp [discarded, Token.written, tokenAt, kind, Lexeme.text, spelling]

/-- How the token of a lexeme accounts for its spelling. -/
def account : Lexeme → Account
  | quoted _ => .string
  | cutOff .. => .cutOff
  | _ => .verbatim

theorem holds_account {l : Lexeme} (hw : l.WellFormed) (before after : Text) :
    l.account.Holds (before ++ l.spelling ++ after) (byteLength before)
      (byteLength before + byteLength l.spelling) (l.tokenAt (byteLength before)) := by
  have hs : slice? (before ++ l.spelling ++ after) (byteLength before)
      (byteLength before + byteLength l.spelling) = some l.spelling :=
    Text.slice?_eq_some_iff.mpr ⟨before, after, rfl, rfl, rfl⟩
  cases l with
  | quoted content => exact ⟨rfl, rfl, hs⟩
  | cutOff content lineEnd =>
    obtain ⟨hc, he⟩ := hw
    have he : lineEnd = '\n' ∨ lineEnd = '\r' := by simpa [Text.isLineEnd] using he
    have hb : byteLength [lineEnd] = 1 := by rcases he with rfl | rfl <;> rfl
    have hsp : (cutOff content lineEnd).spelling = '"' :: content ++ [lineEnd] := rfl
    refine ⟨rfl, ?_, ?_, content, ?_, fun c hm => settlesString_eq_false_iff.mp (hc c hm)⟩
    · simpa [tokenAt, Lexeme.text] using he
    · simp only [tokenAt, lead, hsp, Text.byteLength_append, hb]
      omega
    · refine Text.slice?_eq_some_iff.mpr ⟨before, lineEnd :: after, ?_, rfl, rfl⟩
      simp [hsp]
  | word text => exact ⟨kind_word_ne text, rfl, hs⟩
  | number | blank | symbol | openQuote | stray => exact ⟨by simp [tokenAt, kind], rfl, hs⟩

theorem discarded_eq_nil {l : Lexeme} (h : l.account ≠ .cutOff) : l.discarded = [] := by
  cases l with
  | cutOff => exact absurd rfl h
  | number | blank | symbol | word | quoted | openQuote | stray => rfl

/-- The token covers what the lexeme takes, behind what it discards. -/
theorem position_add_written (l : Lexeme) (p : Nat) :
    (l.tokenAt p).position + byteLength (l.tokenAt p).written = p + byteLength l.spelling := by
  rw [← discarded_append_written l p, Text.byteLength_append, ← lead_eq, ← Nat.add_assoc]
  rfl

theorem byteLength_written_tokensFrom (position : Nat) (ls : List Lexeme) :
    byteLength ((tokensFrom position ls).flatMap Token.written) +
      byteLength (ls.flatMap discarded) = byteLength (spellings ls) := by
  induction ls generalizing position with
  | nil => rfl
  | cons l ls ih =>
    have hl := congrArg byteLength (discarded_append_written l position)
    have hls := ih (position + byteLength l.spelling)
    rw [Text.byteLength_append] at hl
    simp only [tokensFrom, placed, List.map_cons, List.flatMap_cons, spellings_cons,
      Text.byteLength_append] at hls ⊢
    omega

/-- The tokens give back what the lexemes spell just if none of these discards anything. -/
theorem flatMap_written_eq_iff (position : Nat) (ls : List Lexeme) :
    (tokensFrom position ls).flatMap Token.written = spellings ls ↔
      ∀ l ∈ ls, l.account ≠ .cutOff := by
  constructor
  · intro h l hl hcut
    have hlen := byteLength_written_tokensFrom position ls
    rw [h] at hlen
    have hnil : ls.flatMap discarded = [] := Text.byteLength_eq_zero_iff.mp (by omega)
    have hd : l.discarded = [] := List.flatMap_eq_nil_iff.mp hnil l hl
    cases l with
    | cutOff => simp [discarded] at hd
    | number | blank | symbol | word | quoted | openQuote | stray => cases hcut
  · intro h
    induction ls generalizing position with
    | nil => rfl
    | cons l ls ih =>
      obtain ⟨hl, hls⟩ := List.forall_mem_cons.mp h
      have hw := discarded_append_written l position
      rw [discarded_eq_nil hl, List.nil_append] at hw
      have := ih (position + byteLength l.spelling) hls
      simp only [tokensFrom, placed, List.map_cons, List.flatMap_cons, spellings_cons] at this ⊢
      rw [hw, this]

end Lexeme

/-! ## The steps of a scan -/

variable {source : Text} {i : Nat} {l : Lexeme}

theorem wellFormed_of_getElem? (h : (lexemes source)[i]? = some l) : l.WellFormed :=
  ((fitBefore_lexemes source).getElem h).wellFormed

theorem reached_lt_succ (h : (lexemes source)[i]? = some l) :
    reached source i < reached source (i + 1) := by
  have hne := (wellFormed_of_getElem? h).spelling_ne_nil
  have := Text.byteLength_eq_zero_iff.not.mpr hne
  rw [reached_succ h]
  omega

theorem reached_mono (source : Text) : Monotone (reached source) := by
  refine monotone_nat_of_le_succ fun i => ?_
  cases h : (lexemes source)[i]? with
  | some l => exact Nat.le_of_lt (reached_lt_succ h)
  | none =>
    have hi := List.getElem?_eq_none_iff.mp h
    rw [reached_of_length_le hi, reached_of_length_le (Nat.le_succ_of_le hi)]

theorem holds_answer (h : (lexemes source)[i]? = some l) :
    l.account.Holds source (reached source i) (reached source (i + 1)) (answer source i) := by
  have hs := holds_account (wellFormed_of_getElem? h) (spellings ((lexemes source).take i))
    (spellings ((lexemes source).drop (i + 1)))
  rwa [← source_eq_of_getElem? h, ← reached_eq, ← reached_succ h, ← answer_of_getElem? h] at hs

theorem account_eq_cutOff_iff (h : (lexemes source)[i]? = some l) :
    Account.cutOff.Holds source (reached source i) (reached source (i + 1)) (answer source i) ↔
      l.account = .cutOff :=
  ⟨fun hc => Account.eq_of_holds (holds_answer h) hc, fun hc => hc ▸ holds_answer h⟩

/-- The token of a step stands in the text as written, and its step ends with it. -/
theorem position_answer (h : (lexemes source)[i]? = some l) :
    reached source i ≤ (answer source i).position ∧
      (answer source i).position + byteLength (answer source i).written =
        reached source (i + 1) := by
  rw [answer_of_getElem? h, reached_succ h]
  exact ⟨Nat.le_add_right .., position_add_written l _⟩

theorem slice?_answer (h : (lexemes source)[i]? = some l) :
    slice? source (answer source i).position (reached source (i + 1)) =
      some (answer source i).written := by
  have hend := (position_answer h).2
  have hsrc := source_eq_of_getElem? h
  rw [answer_of_getElem? h] at hend ⊢
  rw [← discarded_append_written l (reached source i)] at hsrc
  refine Text.slice?_eq_some_iff.mpr ⟨spellings ((lexemes source).take i) ++ l.discarded,
    spellings ((lexemes source).drop (i + 1)), ?_, ?_, hend⟩
  · simpa using hsrc
  · rw [Text.byteLength_append, ← reached_eq, ← lead_eq]
    rfl

theorem exists_reached_le {b n : Nat} (h : b < reached source n) :
    ∃ i < n, reached source i ≤ b ∧ b < reached source (i + 1) := by
  induction n with
  | zero => exact absurd h (by simp [reached_zero])
  | succ n ih =>
    by_cases hn : b < reached source n
    · obtain ⟨i, hi, hr⟩ := ih hn
      exact ⟨i, by omega, hr⟩
    · exact ⟨n, by omega, by omega, h⟩

/-- Each byte of the text falls to one step. -/
theorem existsUnique_reached {b : Nat} (hb : b < byteLength source) :
    ∃! i, i < (lexemes source).length ∧ reached source i ≤ b ∧ b < reached source (i + 1) := by
  rw [← reached_of_length_le (Nat.le_refl _)] at hb
  obtain ⟨i, hi, hlo, hhi⟩ := exists_reached_le hb
  refine ⟨i, ⟨hi, hlo, hhi⟩, ?_⟩
  intro j hj
  obtain ⟨-, hjlo, hjhi⟩ := hj
  rcases Nat.lt_trichotomy j i with hji | hji | hji
  · have := reached_mono source (show j + 1 ≤ i from hji)
    omega
  · exact hji
  · have := reached_mono source (show i + 1 ≤ j from hji)
    omega

/-- The bytes that no token covers are those of strings cut off, up to their line end. -/
theorem forall_not_covers_iff {b : Nat} (hb : b < byteLength source) :
    (∀ t ∈ (scan source).tokens, ¬t.Covers b) ↔
      ∃ i < (lexemes source).length,
        Account.cutOff.Holds source (reached source i) (reached source (i + 1))
          (answer source i) ∧
        reached source i ≤ b ∧ b < (answer source i).position := by
  obtain ⟨i, ⟨hi, hlo, hhi⟩, hunique⟩ := existsUnique_reached hb
  have hl := List.getElem?_eq_getElem hi
  obtain ⟨hle, hend⟩ := position_answer hl
  rw [tokens_eq_map_answer]
  constructor
  · intro h
    have hcov : ¬(answer source i).Covers b :=
      h _ (List.mem_map_of_mem (List.mem_range.mpr (by omega)))
    have hbefore : b < (answer source i).position := by
      simp only [Token.Covers, hend] at hcov
      omega
    refine ⟨i, hi, (account_eq_cutOff_iff hl).mpr ?_, hlo, hbefore⟩
    by_contra hne
    have hlead : (lexemes source)[i].lead = 0 := by
      rw [lead_eq, discarded_eq_nil hne, Text.byteLength_nil]
    have hpos : (answer source i).position = reached source i := by
      rw [answer_of_getElem? hl, tokenAt, hlead, Nat.add_zero]
    omega
  · intro h t ht hcov
    obtain ⟨j, hj, -, hjlo, hjpos⟩ := h
    obtain ⟨k, hk, rfl⟩ := List.mem_map.mp ht
    obtain ⟨htlo, hthi⟩ := hcov
    have hk : k ≤ (lexemes source).length := Nat.le_of_lt_succ (List.mem_range.mp hk)
    rcases Nat.lt_or_eq_of_le hk with hk | rfl
    · obtain ⟨hkle, hkend⟩ := position_answer (List.getElem?_eq_getElem hk)
      have hjend := (position_answer (List.getElem?_eq_getElem hj)).2
      have hki : k = i := hunique k ⟨hk, by omega, by omega⟩
      have hji : j = i := hunique j ⟨hj, hjlo, by omega⟩
      subst hki hji
      omega
    · rw [answer_of_length_le (Nat.le_refl _)] at htlo hthi
      simp only [Token.endAt, Token.written, reduceCtorEq, if_false, Text.byteLength_nil] at htlo hthi
      omega

/-- The first `n` tokens tile the text. -/
structure TiledBy (source : Text) (n : Nat) : Prop where
  /-- The tokens of the scan are the answers to its steps. -/
  tokens_eq : (scan source).tokens = (List.range (n + 1)).map (answer source)
  kind_ne_iff : ∀ i, (answer source i).kind ≠ .endOfText ↔ i < n
  reached_start : reached source 0 = 0
  reached_end : reached source n = byteLength source
  answer_end : answer source n = .endAt (byteLength source)
  /-- Every byte belongs to exactly one step. -/
  existsUnique : ∀ b < byteLength source,
    ∃! i, i < n ∧ reached source i ≤ b ∧ b < reached source (i + 1)
  /-- Every step has exactly one account. -/
  account : ∀ i < n, reached source i < reached source (i + 1) ∧
    ∃! a : Account, a.Holds source (reached source i) (reached source (i + 1)) (answer source i)
  /-- Every token stands in the text as written. -/
  written : ∀ i < n, slice? source (answer source i).position (reached source (i + 1)) =
    some (answer source i).written
  /-- Without a string cut off, and only then, nothing is lost. -/
  written_eq_iff : (scan source).tokens.flatMap Token.written = source ↔
    ∀ i < n, ¬Account.cutOff.Holds source (reached source i) (reached source (i + 1))
      (answer source i)
  /-- Only the beginnings of strings cut off are lost. -/
  uncovered : ∀ b < byteLength source, (∀ t ∈ (scan source).tokens, ¬t.Covers b) ↔
    ∃ i < n, Account.cutOff.Holds source (reached source i) (reached source (i + 1))
      (answer source i) ∧ reached source i ≤ b ∧ b < (answer source i).position

theorem flatMap_written_tokens_eq_iff (source : Text) :
    (scan source).tokens.flatMap Token.written = source ↔
      ∀ l ∈ lexemes source, l.account ≠ .cutOff := by
  have hend : [Token.endAt (byteLength source)].flatMap Token.written = [] := by
    simp [Token.written, Token.endAt]
  rw [← flatMap_written_eq_iff 0, spellings_lexemes, tokens_scan, List.flatMap_append, hend,
    List.append_nil]

/-- Every text is tiled by the tokens of its scan. -/
theorem exists_tiledBy (source : Text) : ∃ n, TiledBy source n := by
  refine ⟨(lexemes source).length, tokens_eq_map_answer source, kind_answer_ne_iff source,
    reached_zero source, reached_of_length_le (Nat.le_refl _), answer_of_length_le (Nat.le_refl _),
    fun b hb => existsUnique_reached hb, ?_, fun i hi => slice?_answer (List.getElem?_eq_getElem hi),
    ?_, fun b hb => forall_not_covers_iff hb⟩
  · intro i hi
    have hl := List.getElem?_eq_getElem hi
    exact ⟨reached_lt_succ hl, _, holds_answer hl,
      fun a ha => Account.eq_of_holds ha (holds_answer hl)⟩
  · rw [flatMap_written_tokens_eq_iff, List.forall_mem_iff_forall_getElem]
    refine forall₂_congr fun i hi => ?_
    exact (not_congr (account_eq_cutOff_iff (List.getElem?_eq_getElem hi))).symm

end ScriptScan
