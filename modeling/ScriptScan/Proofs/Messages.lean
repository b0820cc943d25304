import ScriptScan.Problem
import ScriptScan.Proofs.Runs

/-! # No two problems have the same message

A message quotes a text of the script, which may look like anything, the rest of a message
included. Still the quoted text is found in it: what a character is written as tells the character
and where it ends (`WrittenAs.append_inj`), and no character is written with a quote in front. So
the first quote that no escape takes is the closing one (`quoted_append_inj`), and behind it stands
the position alone. -/

namespace ScriptScan
namespace Text

/-! ## Code points -/

/-- Digits of base sixteen tell the number. -/
theorem toDigits_sixteen_inj {m n : Nat} (h : Nat.toDigits 16 m = Nat.toDigits 16 n) : m = n := by
  have hdigit : ∀ i < 16, ∀ j < 16, Nat.digitChar i = Nat.digitChar j → i = j := by decide
  induction m using Nat.strongRecOn generalizing n with
  | ind m ih =>
    rw [@Nat.toDigits_eq_if 16 m (by decide), @Nat.toDigits_eq_if 16 n (by decide)] at h
    split at h <;> split at h
    · exact hdigit m ‹_› n ‹_› (List.singleton_inj.mp h)
    · exact absurd (List.append_eq_singleton_iff.mp h.symm) (by simp)
    · exact absurd (List.append_eq_singleton_iff.mp h) (by simp)
    · obtain ⟨hinit, hlast⟩ := List.append_singleton_inj.mp h
      have hquotient := ih (m / 16) (by omega) hinit
      have hremainder := hdigit (m % 16) (by omega) (n % 16) (by omega) hlast
      omega

theorem not_mem_toDigits_sixteen {c : Char} (hc : ∀ d, Nat.digitChar d ≠ c) (n : Nat) :
    c ∉ Nat.toDigits 16 n := by
  induction n using Nat.strongRecOn with
  | ind n ih =>
    rw [Nat.toDigits_eq_if (by decide)]
    split
    · simpa using (hc n).symm
    · have := ih (n / 16) (by omega)
      simpa [this] using (hc (n % 16)).symm

/-- The closing brace is no digit, so it ends the code point. -/
theorem codePoint_append_inj {m n : Nat} {u v : Text} (h : codePoint m ++ u = codePoint n ++ v) :
    m = n ∧ u = v := by
  have hbrace : ∀ n, '\x7d' ∉ Nat.toDigits 16 n :=
    not_mem_toDigits_sixteen fun _ => Nat.digitChar_ne '\x7d' rfl
  simp only [codePoint, List.append_assoc] at h
  obtain ⟨hdigits, rfl⟩ :=
    append_cons_inj_of_not_mem (hbrace m) (hbrace n) (List.append_cancel_left h)
  exact ⟨toDigits_sixteen_inj hdigits, rfl⟩

/-! ## Characters -/

/-- The characters that have an escape of one sign, with this sign. -/
def shortEscapes : List (Char × Char) :=
  [('\x00', '0'), ('\t', 't'), ('\n', 'n'), ('\r', 'r'), ('"', '"'), ('\\', '\\')]

/-- The ways to write a character in a quoted text: as itself, unless it is a quote or a backslash,
or by an escape. -/
inductive WrittenAs (c : Char) : Text → Prop
  | itself : c ≠ '"' → c ≠ '\\' → WrittenAs c [c]
  | short {e : Char} : (c, e) ∈ shortEscapes → WrittenAs c ['\\', e]
  | byCodePoint : WrittenAs c (codePoint c.toNat)

theorem writtenAs_quotedChar (c : Char) : WrittenAs c (quotedChar c) := by
  unfold quotedChar
  split
  case h_7 hq hb =>
    split
    · exact .byCodePoint
    · exact .itself hq hb
  all_goals exact .short (by decide)

/-- What a character is written as tells the character, and where it ends. -/
theorem WrittenAs.append_inj {c d : Char} {s t u v : Text} (hs : WrittenAs c s)
    (ht : WrittenAs d t) (h : s ++ u = t ++ v) : c = d ∧ u = v := by
  have hshort : ∀ x ∈ shortEscapes, ∀ y ∈ shortEscapes, x.2 = y.2 → x = y := by decide
  -- a code point is told from the short escapes by the sign behind its backslash
  have hcode : ∀ x ∈ shortEscapes, x.2 ≠ 'u' := by decide
  cases hs with
  | itself _ hb =>
    cases ht with
    | itself => exact List.cons.inj h
    | short | byCodePoint => exact absurd (List.cons.inj h).1 hb
  | short hc =>
    cases ht with
    | itself _ hb => exact absurd (List.cons.inj h).1.symm hb
    | short hd =>
      obtain ⟨he, huv⟩ := List.cons.inj (List.cons.inj h).2
      exact ⟨(Prod.mk.inj (hshort _ hc _ hd he)).1, huv⟩
    | byCodePoint => exact absurd (List.cons.inj (List.cons.inj h).2).1 (hcode _ hc)
  | byCodePoint =>
    cases ht with
    | itself _ hb => exact absurd (List.cons.inj h).1.symm hb
    | short hd => exact absurd (List.cons.inj (List.cons.inj h).2).1.symm (hcode _ hd)
    | byCodePoint =>
      obtain ⟨hn, huv⟩ := codePoint_append_inj h
      exact ⟨Char.toNat_inj.mp hn, huv⟩

theorem WrittenAs.append_ne_quote_cons {c : Char} {s : Text} (h : WrittenAs c s) (u v : Text) :
    s ++ u ≠ '"' :: v := by
  cases h with
  | itself hq _ => exact fun h => hq (List.cons.inj h).1
  | short | byCodePoint => exact fun h => absurd (List.cons.inj h).1 (by decide)

/-! ## Texts and messages -/

/-- A quoted text tells the text, and where its closing quote is. -/
theorem quoted_append_inj {s t u v : Text} (h : quoted s ++ u = quoted t ++ v) :
    s = t ∧ u = v := by
  have hcontent : s.flatMap quotedChar ++ '"' :: u = t.flatMap quotedChar ++ '"' :: v := by
    simpa [quoted] using h
  clear h
  induction s generalizing t with
  | nil =>
    cases t with
    | nil => exact ⟨rfl, (List.cons.inj hcontent).2⟩
    | cons d t =>
      rw [List.flatMap_cons, List.append_assoc] at hcontent
      exact absurd hcontent.symm ((writtenAs_quotedChar d).append_ne_quote_cons _ _)
  | cons c s ih =>
    rw [List.flatMap_cons, List.append_assoc] at hcontent
    cases t with
    | nil => exact absurd hcontent ((writtenAs_quotedChar c).append_ne_quote_cons _ _)
    | cons d t =>
      rw [List.flatMap_cons, List.append_assoc] at hcontent
      obtain ⟨rfl, hrest⟩ := (writtenAs_quotedChar c).append_inj (writtenAs_quotedChar d) hcontent
      obtain ⟨rfl, huv⟩ := ih hrest
      exact ⟨rfl, huv⟩

end Text

namespace Cause

/-- The first characters of a message tell what kind of cause it is about. -/
theorem take_message (c : Cause) (u : Text) :
    (c.message ++ u).take 3 =
      match c with
      | unrecognised _ => ['u', 'n', 'r']
      | unterminatedString => ['u', 'n', 't']
      | numberTooLarge _ => ['e', 'r', 'r'] := by
  cases c <;> rfl

/-- The message of a cause tells the cause, and where the message ends. -/
theorem message_append_inj {a b : Cause} {u v : Text} (h : a.message ++ u = b.message ++ v) :
    a = b ∧ u = v := by
  have hstart := congrArg (List.take 3) h
  rw [take_message, take_message] at hstart
  have hquoted : ∀ lead s t : Text,
      lead ++ Text.quoted s ++ u = lead ++ Text.quoted t ++ v → s = t ∧ u = v := by
    intro lead s t h
    rw [List.append_assoc, List.append_assoc] at h
    exact Text.quoted_append_inj (List.append_cancel_left h)
  cases a <;> cases b
  case unrecognised.unrecognised =>
    obtain ⟨rfl, huv⟩ := hquoted _ _ _ h
    exact ⟨rfl, huv⟩
  case unterminatedString.unterminatedString => exact ⟨rfl, List.append_cancel_left h⟩
  case numberTooLarge.numberTooLarge =>
    obtain ⟨rfl, huv⟩ := hquoted _ _ _ h
    exact ⟨rfl, huv⟩
  all_goals cases hstart

end Cause

/-- Two problems are shown alike only if they are the same. -/
theorem Problem.display_inj {p q : Problem} : p.display = q.display ↔ p = q := by
  refine ⟨fun h => ?_, congrArg display⟩
  obtain ⟨cause, position⟩ := p
  obtain ⟨cause', position'⟩ := q
  rw [display, display, List.append_assoc, List.append_assoc] at h
  obtain ⟨rfl, hrest⟩ := Cause.message_append_inj h
  obtain rfl := Text.decimal_injective (List.append_cancel_left hrest)
  rfl

end ScriptScan
