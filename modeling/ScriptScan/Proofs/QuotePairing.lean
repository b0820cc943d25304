import ScriptScan.Proofs.Extension

/-! # Quotes pair up line by line

Line ends cut a text into segments, and in each segment the quotes pair up from the left: the first
opens a string that the second closes, and so on. A quote left over opens a string that the line
end cuts off, or, in the last segment, stands alone. This is what the tokens of a scan say: a
lexeme takes an even number of quotes from its segment, or the segment's last one, so whatever
lexeme a segment has come to, the pairs from there on are those of its remainder. -/

namespace ScriptScan
open Lexeme
open Text (byteLength isBlank isLineEnd)

/-- A stretch of a text between line ends: the byte position where it starts, its characters, and
the line end behind it. The last stretch has none. -/
structure Segment where
  start : Nat
  content : Text
  lineEnd? : Option Char
deriving Repr, DecidableEq

namespace Segment

/-- The segment with its line end. -/
def written (g : Segment) : Text := g.content ++ g.lineEnd?.toList

def quotes (g : Segment) : Nat := g.content.count '"'

/-- What stands between the quotes, and in front of the first and behind the last. -/
def parts (g : Segment) : List Text := g.content.splitOn '"'

/-- The byte position of a quote. In front of quote `i`, counted from zero, stand `i + 1` parts and
`i` quotes. -/
def quoteAt (g : Segment) (i : Nat) : Nat :=
  g.start + byteLength (g.parts.take (i + 1)).flatten + i

/-- The strings of the segment, one for each pair of quotes. -/
def strings (g : Segment) : List Token :=
  (List.range (g.quotes / 2)).map fun j =>
    { kind := .string, position := g.quoteAt (2 * j), text := g.parts.getD (2 * j + 1) [] }

/-- The token of the string that the segment does not close. -/
def unterminated? (g : Segment) : Option Token :=
  if g.quotes % 2 = 1 then
    some <| match g.lineEnd? with
      | some c => { kind := .bad, position := g.start + byteLength g.content, text := [c] }
      | none => { kind := .bad, position := g.quoteAt (g.quotes - 1), text := ['"'] }
  else none

/-- The segment with text in front of it, starting at `position`. -/
def prepend (position : Nat) (u : Text) (g : Segment) : Segment :=
  { start := position, content := u ++ g.content, lineEnd? := g.lineEnd? }

end Segment

/-- The segments of a text that starts at a byte position. -/
def segmentsFrom (position : Nat) : Text → List Segment
  | [] => [{ start := position, content := [], lineEnd? := none }]
  | c :: t =>
    let gs := segmentsFrom (position + c.utf8Size) t
    if isLineEnd c then { start := position, content := [], lineEnd? := some c } :: gs
    else gs.modifyHead (Segment.prepend position [c])

/-- The token is bad and stands for an unterminated string. -/
def Token.isUnterminated (t : Token) : Bool :=
  t.problem?.any fun p => p.cause = .unterminatedString

/-! ## Segments cut the text at its line ends -/

theorem segmentsFrom_of_isLineEnd {c : Char} (hc : isLineEnd c = true) (position : Nat) (t : Text) :
    segmentsFrom position (c :: t) =
      ⟨position, [], some c⟩ :: segmentsFrom (position + c.utf8Size) t := by
  rw [segmentsFrom, if_pos hc]

theorem segmentsFrom_eq_cons (position : Nat) (t : Text) :
    ∃ g gs, segmentsFrom position t = g :: gs ∧ g.start = position := by
  induction t generalizing position with
  | nil => exact ⟨_, _, rfl, rfl⟩
  | cons c t ih =>
    obtain ⟨g, gs, hgs, -⟩ := ih (position + c.utf8Size)
    rw [segmentsFrom]
    split
    · exact ⟨_, _, rfl, rfl⟩
    · rw [hgs]
      exact ⟨_, _, rfl, rfl⟩

/-- Text without line ends belongs to the first segment of what follows it. -/
theorem segmentsFrom_append {u : Text} (hu : ∀ c ∈ u, isLineEnd c = false) (position : Nat)
    (t : Text) : ∃ g gs, segmentsFrom (position + byteLength u) t = g :: gs ∧
      g.start = position + byteLength u ∧
      segmentsFrom position (u ++ t) = g.prepend position u :: gs := by
  induction u generalizing position with
  | nil =>
    obtain ⟨g, gs, hgs, hstart⟩ := segmentsFrom_eq_cons position t
    refine ⟨g, gs, hgs, hstart, ?_⟩
    rw [List.nil_append, hgs, ← hstart]
    rfl
  | cons c u ih =>
    obtain ⟨hc, hu⟩ := List.forall_mem_cons.mp hu
    obtain ⟨g, gs, hgs, hstart, happ⟩ := ih hu (position + c.utf8Size)
    rw [Nat.add_assoc, ← Text.byteLength_cons] at hgs hstart
    refine ⟨g, gs, hgs, hstart, ?_⟩
    rw [List.cons_append, segmentsFrom, hc, happ]
    rfl

/-- Text without line ends, up to the first line end, is a segment. -/
theorem segmentsFrom_append_lineEnd {u : Text} (hu : ∀ c ∈ u, isLineEnd c = false) {c : Char}
    (hc : isLineEnd c = true) (position : Nat) (t : Text) :
    segmentsFrom position (u ++ c :: t) =
      ⟨position, u, some c⟩ :: segmentsFrom (position + byteLength u + c.utf8Size) t := by
  obtain ⟨g, gs, hgs, -, happ⟩ := segmentsFrom_append hu position (c :: t)
  rw [segmentsFrom_of_isLineEnd hc] at hgs
  obtain ⟨rfl, rfl⟩ := List.cons.inj hgs
  rw [happ, Segment.prepend, List.append_nil]

/-- Text without line ends, up to the end of the text, is the last segment. -/
theorem segmentsFrom_of_forall {u : Text} (hu : ∀ c ∈ u, isLineEnd c = false) (position : Nat) :
    segmentsFrom position u = [⟨position, u, none⟩] := by
  obtain ⟨g, gs, hgs, -, happ⟩ := segmentsFrom_append hu position []
  obtain ⟨rfl, rfl⟩ := List.cons.inj hgs
  simpa [Segment.prepend] using happ

theorem map_content_segmentsFrom (position : Nat) (t : Text) :
    (segmentsFrom position t).map Segment.content = t.splitOnP isLineEnd := by
  induction t generalizing position with
  | nil => rfl
  | cons c t ih =>
    rw [segmentsFrom, List.splitOnP_cons_eq_if_modifyHead, ← ih (position + c.utf8Size)]
    split
    · rfl
    · cases segmentsFrom (position + c.utf8Size) t <;> rfl

/-- Segments stand one after the other and spell the text. -/
theorem flatMap_written_segmentsFrom (position : Nat) (t : Text) :
    (segmentsFrom position t).flatMap Segment.written = t := by
  induction t generalizing position with
  | nil => rfl
  | cons c t ih =>
    have ih := ih (position + byteLength [c])
    by_cases hc : isLineEnd c = true
    · rw [segmentsFrom_of_isLineEnd hc, List.flatMap_cons]
      exact congrArg (c :: ·) ih
    · obtain ⟨g, gs, hgs, -, happ⟩ := segmentsFrom_append (u := [c]) (by simpa using hc) position t
      rw [hgs] at ih
      rw [← List.singleton_append, happ, ← ih]
      simp [Segment.written, Segment.prepend]

theorem start_segmentsFrom {position k : Nat} {t : Text} {g : Segment}
    (h : (segmentsFrom position t)[k]? = some g) :
    g.start = position + byteLength (((segmentsFrom position t).take k).flatMap Segment.written) := by
  induction t generalizing position k g with
  | nil =>
    cases k with
    | zero =>
      obtain rfl := Option.some.inj h
      rfl
    | succ k => simp [segmentsFrom] at h
  | cons c t ih =>
    by_cases hc : isLineEnd c = true
    · rw [segmentsFrom_of_isLineEnd hc] at h ⊢
      cases k with
      | zero =>
        obtain rfl := Option.some.inj h
        rfl
      | succ k =>
        rw [ih h]
        simp [Segment.written, Nat.add_assoc]
    · obtain ⟨g₀, gs, hgs, -, happ⟩ := segmentsFrom_append (u := [c]) (by simpa using hc) position t
      rw [← List.singleton_append, happ] at h ⊢
      cases k with
      | zero =>
        obtain rfl := Option.some.inj h
        rfl
      | succ k =>
        have hk : (segmentsFrom (position + byteLength [c]) t)[k + 1]? = some g := by
          rw [hgs]
          exact h
        rw [ih hk, hgs]
        simp [Segment.written, Segment.prepend, Nat.add_assoc]

/-! ## Quotes of a segment -/

namespace Segment

theorem length_splitOn (t : Text) : (t.splitOn '"').length = t.count '"' + 1 := by
  induction t with
  | nil => rfl
  | cons c t ih =>
    rw [List.splitOn_cons_eq_if_modifyHead]
    by_cases hc : c = '"'
    · simp [hc, ih]
    · simp [hc, ih, List.count_cons_of_ne]

/-- Splitting loses the quotes and nothing else. -/
theorem byteLength_flatten_splitOn (t : Text) :
    byteLength (t.splitOn '"').flatten + t.count '"' = byteLength t := by
  induction t with
  | nil => rfl
  | cons c t ih =>
    rw [List.splitOn_cons_eq_if_modifyHead]
    by_cases hc : c = '"'
    · have hq : '"'.utf8Size = 1 := rfl
      simp only [hc, beq_self_eq_true, if_true, List.flatten_cons, List.nil_append,
        List.count_cons_self, Text.byteLength_cons, hq]
      omega
    · obtain ⟨part, others, h⟩ := List.exists_cons_of_ne_nil (List.splitOn_ne_nil '"' t)
      rw [h] at ih ⊢
      simp only [List.flatten_cons, Text.byteLength_append] at ih
      rw [if_neg (by simpa using hc), List.modifyHead_cons, List.flatten_cons,
        List.count_cons_of_ne hc]
      simp only [List.cons_append, Text.byteLength_cons, Text.byteLength_append]
      omega

/-- The quote behind `before` is the one with as many quotes in front of it. -/
theorem quoteAt_count {g : Segment} {before after : Text}
    (h : g.content = before ++ '"' :: after) :
    g.quoteAt (before.count '"') = g.start + byteLength before := by
  have hparts : g.parts.take (before.count '"' + 1) = before.splitOn '"' := by
    rw [parts, h, List.splitOn_append_cons_self, ← length_splitOn, List.take_left]
  rw [quoteAt, hparts, Nat.add_assoc, byteLength_flatten_splitOn]

/-- Two quotes in a row have between them the part with the number of the second. -/
theorem getD_parts {g : Segment} {before inner after : Text}
    (h : g.content = before ++ '"' :: inner ++ '"' :: after) (hi : '"' ∉ inner) :
    g.parts.getD (before.count '"' + 1) [] = inner := by
  have hparts : g.parts = before.splitOn '"' ++ inner :: after.splitOn '"' := by
    rw [parts, h, List.append_assoc, List.cons_append, List.splitOn_append_cons_self,
      List.splitOn_append_cons_self_of_not_mem hi]
  rw [hparts, ← length_splitOn, List.getD_eq_getElem?_getD, List.getElem?_append_right (Nat.le_refl _),
    Nat.sub_self]
  rfl

/-- Text without quotes belongs to the first part of what follows it. -/
theorem splitOn_append {u : Text} (hu : '"' ∉ u) (t : Text) :
    ∃ part others, t.splitOn '"' = part :: others ∧ (u ++ t).splitOn '"' = (u ++ part) :: others := by
  induction u with
  | nil =>
    obtain ⟨part, others, h⟩ := List.exists_cons_of_ne_nil (List.splitOn_ne_nil '"' t)
    exact ⟨part, others, h, h⟩
  | cons c u ih =>
    obtain ⟨part, others, h, happ⟩ := ih fun hm => hu (List.mem_cons_of_mem c hm)
    have hc : c ≠ '"' := fun hc => hu (hc ▸ List.mem_cons_self)
    refine ⟨part, others, h, ?_⟩
    rw [List.cons_append, List.splitOn_cons_eq_if_modifyHead, if_neg (by simpa using hc), happ]
    rfl

/-- A pair of quotes makes two parts of its own. -/
theorem splitOn_pair {inner : Text} (hi : '"' ∉ inner) (t : Text) :
    ('"' :: inner ++ ['"'] ++ t).splitOn '"' = [] :: inner :: t.splitOn '"' := by
  rw [List.append_assoc, List.cons_append, List.splitOn_cons_eq_if_modifyHead, if_pos (by simp),
    List.singleton_append, List.splitOn_append_cons_self_of_not_mem hi]

section
variable {position : Nat} {g : Segment} {u : Text} (hg : g.start = position + byteLength u)
  (hu : '"' ∉ u)
include hu

theorem quotes_prepend : (g.prepend position u).quotes = g.quotes := by
  simp [quotes, prepend, List.count_append, List.count_eq_zero_of_not_mem hu]

include hg

theorem quoteAt_prepend (i : Nat) : (g.prepend position u).quoteAt i = g.quoteAt i := by
  obtain ⟨part, others, h, happ⟩ := splitOn_append hu g.content
  simp only [quoteAt, parts, prepend, h, happ, List.take_succ_cons, List.flatten_cons,
    Text.byteLength_append, hg]
  omega

theorem strings_prepend : (g.prepend position u).strings = g.strings := by
  obtain ⟨part, others, h, happ⟩ := splitOn_append hu g.content
  rw [strings, strings, quotes_prepend hu]
  refine List.map_congr_left fun j _ => ?_
  rw [quoteAt_prepend hg hu]
  simp only [parts, prepend, h, happ, List.getD_cons_succ]

theorem unterminated?_prepend : (g.prepend position u).unterminated? = g.unterminated? := by
  rw [unterminated?, unterminated?, quotes_prepend hu, quoteAt_prepend hg hu]
  simp only [prepend, Text.byteLength_append, hg, Nat.add_assoc]

end

section
variable {position : Nat} {g : Segment} {inner : Text} (hi : '"' ∉ inner)
  (hg : g.start = position + byteLength ('"' :: inner ++ ['"']))
include hi

theorem quotes_pair : (g.prepend position ('"' :: inner ++ ['"'])).quotes = g.quotes + 2 := by
  simp [quotes, prepend, List.count_append, List.count_eq_zero_of_not_mem hi]

include hg

theorem quoteAt_pair (i : Nat) :
    (g.prepend position ('"' :: inner ++ ['"'])).quoteAt (i + 2) = g.quoteAt i := by
  have hq : '"'.utf8Size = 1 := rfl
  simp only [Text.byteLength_append, Text.byteLength_cons, Text.byteLength_nil, hq] at hg
  simp only [quoteAt, parts, prepend, splitOn_pair hi, List.take_succ_cons, List.flatten_cons,
    Text.byteLength_append, Text.byteLength_nil, hg]
  omega

theorem strings_pair : (g.prepend position ('"' :: inner ++ ['"'])).strings =
    { kind := .string, position, text := inner } :: g.strings := by
  have hhalf : (g.quotes + 2) / 2 = g.quotes / 2 + 1 := by omega
  rw [strings, strings, quotes_pair hi, hhalf, List.range_succ_eq_map, List.map_cons, List.map_map]
  congr 1
  · rw [Nat.mul_zero, quoteAt, parts, prepend, splitOn_pair hi]
    rfl
  · refine List.map_congr_left fun j _ => ?_
    have hj : 2 * (j + 1) = 2 * j + 2 := by omega
    simp only [Function.comp_apply, Nat.succ_eq_add_one, hj, quoteAt_pair hi hg]
    simp only [parts, prepend, splitOn_pair hi, List.getD_cons_succ]

theorem unterminated?_pair :
    (g.prepend position ('"' :: inner ++ ['"'])).unterminated? = g.unterminated? := by
  rw [unterminated?, unterminated?, quotes_pair hi, Nat.add_mod_right]
  split
  · rename_i hodd
    have hlast : g.quotes + 2 - 1 = g.quotes - 1 + 2 := by omega
    rw [hlast, quoteAt_pair hi hg]
    simp only [prepend, Text.byteLength_append, hg, Nat.add_assoc]
  · rfl

end

theorem strings_of_not_mem {position : Nat} {content : Text} {lineEnd? : Option Char}
    (hc : '"' ∉ content) : strings ⟨position, content, lineEnd?⟩ = [] := by
  simp [strings, quotes, List.count_eq_zero_of_not_mem hc]

theorem unterminated?_of_not_mem {position : Nat} {content : Text} {lineEnd? : Option Char}
    (hc : '"' ∉ content) : unterminated? ⟨position, content, lineEnd?⟩ = none := by
  simp [unterminated?, quotes, List.count_eq_zero_of_not_mem hc]

theorem strings_single {position : Nat} {inner : Text} {lineEnd? : Option Char}
    (hi : '"' ∉ inner) : strings ⟨position, '"' :: inner, lineEnd?⟩ = [] := by
  simp [strings, quotes, List.count_eq_zero_of_not_mem hi]

/-- A single quote has no partner. -/
theorem unterminated?_single {position : Nat} {inner : Text} {lineEnd? : Option Char}
    (hi : '"' ∉ inner) :
    unterminated? ⟨position, '"' :: inner, lineEnd?⟩ =
      some (match lineEnd? with
        | some c => { kind := .bad, position := position + byteLength ('"' :: inner), text := [c] }
        | none => { kind := .bad, position, text := ['"'] }) := by
  have hq : quotes ⟨position, '"' :: inner, lineEnd?⟩ = 1 := by
    simp [quotes, List.count_eq_zero_of_not_mem hi]
  have hat : quoteAt ⟨position, '"' :: inner, lineEnd?⟩ 0 = position := by
    rw [quoteAt, parts, List.splitOn_cons_eq_if_modifyHead, if_pos (by simp)]
    rfl
  rw [unterminated?, hq, if_pos rfl, hat]

end Segment

/-! ## Lexemes and quotes -/

/-- The strings of a text and its unterminated ones, by the pairs of its quotes. -/
def paired (position : Nat) (t : Text) : List Token × List Token :=
  ((segmentsFrom position t).flatMap Segment.strings,
    (segmentsFrom position t).filterMap Segment.unterminated?)

/-- The strings among tokens, and the unterminated ones. -/
def picked (tokens : List Token) : List Token × List Token :=
  (tokens.filter (·.kind = .string), tokens.filter Token.isUnterminated)

theorem picked_append (ts us : List Token) :
    picked (ts ++ us) = ((picked ts).1 ++ (picked us).1, (picked ts).2 ++ (picked us).2) := by
  simp only [picked, List.filter_append]

theorem paired_of_segmentsFrom {position : Nat} {t : Text} {g : Segment} {gs : List Segment}
    (h : segmentsFrom position t = g :: gs) :
    paired position t =
      (g.strings ++ gs.flatMap Segment.strings,
        g.unterminated?.toList ++ gs.filterMap Segment.unterminated?) := by
  rw [paired, h, List.flatMap_cons, List.filterMap_cons]
  cases g.unterminated? <;> rfl

theorem paired_append {u : Text} (hu : '"' ∉ u) (position : Nat) (t : Text) :
    paired position (u ++ t) = paired (position + byteLength u) t := by
  induction u generalizing position with
  | nil => rfl
  | cons c u ih =>
    have hc : '"' ∉ [c] := fun hm => hu (List.mem_singleton.mp hm ▸ List.mem_cons_self)
    have ih := ih (fun hm => hu (List.mem_cons_of_mem c hm)) (position + byteLength [c])
    rw [Nat.add_assoc] at ih
    refine Eq.trans ?_ ih
    by_cases he : isLineEnd c = true
    · rw [List.cons_append, paired_of_segmentsFrom (segmentsFrom_of_isLineEnd he _ _),
        Segment.strings_of_not_mem (by simp), Segment.unterminated?_of_not_mem (by simp)]
      rfl
    · obtain ⟨g, gs, hgs, hstart, happ⟩ :=
        segmentsFrom_append (u := [c]) (by simpa using he) position (u ++ t)
      rw [List.cons_append, ← List.singleton_append, paired_of_segmentsFrom happ,
        paired_of_segmentsFrom hgs, Segment.strings_prepend hstart hc,
        Segment.unterminated?_prepend hstart hc]

namespace Lexeme

theorem forall_isLineEnd_eq_false {content : Text} (h : ∀ c ∈ content, settlesString c = false) :
    ∀ c ∈ content, isLineEnd c = false := by
  intro c hc
  have := h c hc
  simp only [settlesString, Bool.or_eq_false_iff] at this
  exact this.2

theorem quote_not_mem {content : Text} (h : ∀ c ∈ content, settlesString c = false) :
    '"' ∉ content :=
  fun hm => absurd (h _ hm) (by decide)

/-- Only strings, closed or not, hold quotes. -/
theorem quote_not_mem_spelling {l : Lexeme} (hw : l.WellFormed)
    (hq : ∀ content, l ≠ quoted content) (hc : ∀ content lineEnd, l ≠ cutOff content lineEnd)
    (ho : l ≠ openQuote) : '"' ∉ l.spelling := by
  cases l with
  | number digits => exact fun hm => absurd (hw.2 _ hm) (by decide)
  | blank run => exact fun hm => absurd (hw.2 _ hm) (by decide)
  | symbol s => cases s <;> decide
  | word text => exact fun hm => absurd (hw.2 _ hm) (by decide)
  | quoted content => exact absurd rfl (hq content)
  | cutOff content lineEnd => exact absurd rfl (hc content lineEnd)
  | openQuote => exact absurd rfl ho
  | stray c => exact fun hm => hw.2.2.1 (List.mem_singleton.mp hm).symm

/-- Text that settles no string calls for nothing. -/
theorem paired_of_settled {t : Text} (h : ∀ c ∈ t, settlesString c = false) (position : Nat) :
    paired position t = ([], []) := by
  rw [paired_of_segmentsFrom (segmentsFrom_of_forall (forall_isLineEnd_eq_false h) position),
    Segment.strings_of_not_mem (quote_not_mem h), Segment.unterminated?_of_not_mem (quote_not_mem h)]
  rfl

theorem picked_of_not_mem {l : Lexeme} (hw : l.WellFormed) (hq : '"' ∉ l.spelling) (p : Nat) :
    picked [l.tokenAt p] = ([], []) := by
  cases l with
  | number | blank | symbol => rfl
  | word text =>
    rcases kind_word text with hk | ⟨k, hk⟩ <;>
      simp [picked, Token.isUnterminated, Token.problem?, tokenAt, hk]
  | quoted content => simp [spelling] at hq
  | cutOff content lineEnd => simp [spelling] at hq
  | openQuote => simp [spelling] at hq
  | stray c =>
    simp [picked, Token.isUnterminated, Token.problem?, tokenAt, kind, badCause_stray hw]

theorem picked_cutOff {lineEnd : Char} (he : isLineEnd lineEnd = true) (content : Text) (p : Nat) :
    picked [(cutOff content lineEnd).tokenAt p] = ([], [(cutOff content lineEnd).tokenAt p]) := by
  simp [picked, Token.isUnterminated, Token.problem?, tokenAt, kind, badCause_cutOff he]

/-- A lexeme takes what the quotes of its segment call for, and those behind it pair up as if the
text began there. -/
theorem paired_spelling_append {l : Lexeme} {rest : Text} (h : l.Fits rest) (p : Nat) :
    paired p (l.spelling ++ rest) =
      ((picked [l.tokenAt p]).1 ++ (paired (p + byteLength l.spelling) rest).1,
        (picked [l.tokenAt p]).2 ++ (paired (p + byteLength l.spelling) rest).2) := by
  obtain ⟨hw, he⟩ := h
  cases l with
  | quoted content =>
    have hline : ∀ c ∈ '"' :: content ++ ['"'], isLineEnd c = false := by
      intro c hc
      simp only [List.cons_append, List.mem_cons, List.mem_append, List.not_mem_nil, or_false] at hc
      rcases hc with rfl | hc | rfl
      · decide
      · exact forall_isLineEnd_eq_false hw c hc
      · decide
    obtain ⟨g, gs, hgs, hstart, happ⟩ := segmentsFrom_append hline p rest
    rw [spelling, paired_of_segmentsFrom happ, paired_of_segmentsFrom hgs,
      Segment.strings_pair (quote_not_mem hw) hstart,
      Segment.unterminated?_pair (quote_not_mem hw) hstart]
    rfl
  | cutOff content lineEnd =>
    -- the line end closes the segment, in which this quote is the only one left
    obtain ⟨hc, hl⟩ := hw
    have hline : ∀ c ∈ '"' :: content, isLineEnd c = false :=
      List.forall_mem_cons.mpr ⟨by decide, forall_isLineEnd_eq_false hc⟩
    have hgs := segmentsFrom_append_lineEnd hline hl p rest
    rw [spelling, List.append_assoc, List.singleton_append, paired_of_segmentsFrom hgs,
      Segment.strings_single (quote_not_mem hc), Segment.unterminated?_single (quote_not_mem hc),
      picked_cutOff hl]
    simp [paired, tokenAt, kind, lead, Lexeme.text, value?, Nat.add_assoc]
  | openQuote =>
    -- nothing behind the quote settles a string, so this is the last segment
    have hrest := forall_isLineEnd_eq_false he
    have hline : ∀ c ∈ '"' :: rest, isLineEnd c = false :=
      List.forall_mem_cons.mpr ⟨by decide, hrest⟩
    rw [spelling, List.singleton_append, paired_of_segmentsFrom (segmentsFrom_of_forall hline p),
      Segment.strings_single (quote_not_mem he), Segment.unterminated?_single (quote_not_mem he),
      paired_of_settled he]
    rfl
  | number | blank | symbol | word | stray =>
    have hq := quote_not_mem_spelling hw (by simp) (by simp) (by simp)
    rw [picked_of_not_mem hw hq, paired_append hq]
    rfl

theorem paired_spellings {ls : List Lexeme} (h : FitBefore [] ls) (p : Nat) :
    paired p (spellings ls) = picked (tokensFrom p ls) := by
  induction ls generalizing p with
  | nil => simp [paired, picked, tokensFrom, placed, segmentsFrom, Segment.strings_of_not_mem,
      Segment.unterminated?_of_not_mem]
  | cons l ls ih =>
    obtain ⟨hl, hls⟩ := h
    rw [List.append_nil] at hl
    have htokens : tokensFrom p (l :: ls) =
        [l.tokenAt p] ++ tokensFrom (p + byteLength l.spelling) ls := rfl
    rw [spellings_cons, paired_spelling_append hl, ih hls, htokens, picked_append]

/-- Behind the quote of an open string no token is a string, closed or not. -/
theorem pairwise_tokensFrom {ls : List Lexeme} (h : FitBefore [] ls) (p : Nat) :
    (tokensFrom p ls).Pairwise fun t u =>
      t.kind = .bad ∧ t.text = ['"'] → u.kind ≠ .string ∧ u.isUnterminated = false := by
  induction ls generalizing p with
  | nil => exact .nil
  | cons l ls ih =>
    obtain ⟨hl, hls⟩ := h
    have htokens : tokensFrom p (l :: ls) =
        l.tokenAt p :: tokensFrom (p + byteLength l.spelling) ls := rfl
    rw [htokens]
    refine List.pairwise_cons.mpr ⟨?_, ih hls _⟩
    intro u hu hbad
    obtain rfl := (bad_quote_iff hl.wellFormed).mp hbad
    rw [List.append_nil] at hl
    -- the text behind the quote calls for nothing, so nothing is picked from its tokens
    have hnone := paired_spellings hls (p + byteLength openQuote.spelling)
    rw [paired_of_settled hl.endsBefore] at hnone
    obtain ⟨hstring, hunterminated⟩ := Prod.mk.inj hnone
    have hu₁ := List.filter_eq_nil_iff.mp hstring.symm u hu
    have hu₂ := List.filter_eq_nil_iff.mp hunterminated.symm u hu
    exact ⟨by simpa using hu₁, by simpa using hu₂⟩

end Lexeme

/-- The segments of a text. -/
def segments (source : Text) : List Segment := segmentsFrom 0 source

/-- The strings of a scan are the pairs of quotes of the segments `gs`. -/
structure PairedIn (gs : List Segment) (source : Text) : Prop where
  /-- The segments are the text cut at its line ends. -/
  map_content : gs.map Segment.content = source.splitOnP isLineEnd
  flatMap_written : gs.flatMap Segment.written = source
  start_eq : ∀ k g, gs[k]? = some g → g.start = byteLength ((gs.take k).flatMap Segment.written)
  /-- A quote is counted by the quotes in front of it on its segment. -/
  quoteAt_count : ∀ g ∈ gs, ∀ before after, g.content = before ++ '"' :: after →
    g.quoteAt (before.count '"') = g.start + byteLength before
  getD_parts : ∀ g ∈ gs, ∀ before inner after,
    g.content = before ++ '"' :: inner ++ '"' :: after → '"' ∉ inner →
    g.parts.getD (before.count '"' + 1) [] = inner
  /-- Each pair of quotes is a string, and there are no others. -/
  strings : (scan source).tokens.filter (·.kind = .string) = gs.flatMap Segment.strings
  /-- Each quote left over is an unterminated string, and there are no others. -/
  unterminated : (scan source).tokens.filter Token.isUnterminated =
    gs.filterMap Segment.unterminated?
  /-- The quote of an open string is the last that a scan has to say about strings. -/
  last : (scan source).tokens.Pairwise fun t u =>
    t.kind = .bad ∧ t.text = ['"'] → u.kind ≠ .string ∧ u.isUnterminated = false
  once : ((scan source).tokens.filter fun t => t.kind = .bad ∧ t.text = ['"']).length ≤ 1

theorem pairwise_tokens (source : Text) :
    (scan source).tokens.Pairwise fun t u =>
      t.kind = .bad ∧ t.text = ['"'] → u.kind ≠ .string ∧ u.isUnterminated = false := by
  rw [tokens_scan, List.pairwise_append]
  refine ⟨pairwise_tokensFrom (fitBefore_lexemes source) 0, List.pairwise_singleton _ _, ?_⟩
  intro t _ u hu _
  obtain rfl := List.mem_singleton.mp hu
  exact ⟨by simp [Token.endAt], rfl⟩

theorem picked_tokens (source : Text) : picked (scan source).tokens = paired 0 source := by
  have h := paired_spellings (fitBefore_lexemes source) 0
  have hend : picked [Token.endAt (byteLength source)] = ([], []) := rfl
  rw [tokens_scan, picked_append, ← h, spellings_lexemes, hend, List.append_nil, List.append_nil]

/-- A bad token with a quote is an unterminated string itself, so there is one at most. -/
theorem length_filter_bad_quote_le (source : Text) :
    ((scan source).tokens.filter fun t => t.kind = .bad ∧ t.text = ['"']).length ≤ 1 := by
  have h := (pairwise_tokens source).filter fun t => decide (t.kind = .bad ∧ t.text = ['"'])
  have hmem : ∀ t ∈ (scan source).tokens.filter fun t => decide (t.kind = .bad ∧ t.text = ['"']),
      t.kind = .bad ∧ t.text = ['"'] := fun t ht => by simpa using (List.mem_filter.mp ht).2
  generalize (scan source).tokens.filter
    (fun t => decide (t.kind = .bad ∧ t.text = ['"'])) = bads at h hmem
  match bads with
  | [] | [_] => simp
  | t :: u :: _ =>
    obtain ⟨hk, ht⟩ := hmem u (by simp)
    have hu := (List.pairwise_cons.mp h).1 u (by simp) (hmem t (by simp))
    rw [Token.isUnterminated, Token.problem?, if_pos hk, ht] at hu
    exact absurd hu.2 (by simp [Token.badCause])

/-- In every text the quotes pair up segment by segment. -/
theorem segments_paired (source : Text) : PairedIn (segments source) source := by
  have h := picked_tokens source
  obtain ⟨hstrings, hunterminated⟩ := Prod.mk.inj h
  refine ⟨map_content_segmentsFrom 0 source, flatMap_written_segmentsFrom 0 source, ?_,
    fun _ _ _ _ => Segment.quoteAt_count, fun _ _ _ _ _ => Segment.getD_parts, hstrings,
    hunterminated, pairwise_tokens source, length_filter_bad_quote_le source⟩
  intro k g hg
  rw [start_segmentsFrom hg, Nat.zero_add]
  rfl

example : (segments "\"é\" \"a\r\"".toList).map (fun g => (g.start, g.strings, g.unterminated?)) =
    [(0, [{ kind := .string, position := 0, text := ['é'] }],
        some { kind := .bad, position := 7, text := ['\r'] }),
      (8, [], some { kind := .bad, position := 8, text := ['"'] })] := by
  decide +kernel

end ScriptScan
