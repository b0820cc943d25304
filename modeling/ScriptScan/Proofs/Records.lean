import ScriptScan.Journal
import ScriptScan.Proofs.Progress

/-! # Records of a scan

A listener hears what a scan tells and has no part in it, so the tokens are the same whatever
listens. A journal keeps one record for each event, in the order of the scan, and a limit leaves
out records but changes none. The records of one step can be told from its token and from where
the step starts (`records_tokenAt`); hence the journal of a scan replays its tokens. -/

namespace ScriptScan
open Lexeme
open Text (byteLength slice?)

namespace Record

/-- A record that the scanner leaves. -/
def ofScanner (level : Level) (message : Text) : Record := { level, origin := .scanner, message }

/-- The record of a reported problem. -/
def ofProblem (problem : Problem) : Record :=
  { level := .warn
    origin := .problems
    message := problem.name ++ ": ".toList ++ problem.display }

end Record

namespace Token

/-- A string that is not closed leaves a note of where its quote stands. -/
def quoteNotes (t : Token) (quote : Nat) : List Record :=
  if t.problem?.map Problem.cause = some .unterminatedString then
    if t.text = ['"'] then
      [.ofScanner .debug ("String literal starting at ".toList ++ Text.decimal quote ++
        " runs off the end of input".toList)]
    else [.ofScanner .debug ("Unterminated string literal starting at ".toList ++
      Text.decimal quote)]
  else []

/-- The records of the step that answers with this token, given where the step starts. -/
def records (t : Token) (start : Nat) : List Record :=
  match t.kind, t.value with
  | .endOfText, _ => []
  | .number, some _ => []
  | .number, none =>
    [.ofScanner .debug ("Failed to decode ".toList ++ Text.quoted t.text ++
        ": number too large to fit in target type".toList),
      .ofProblem { cause := .numberTooLarge t.text, position := t.position }]
  | kind, _ =>
    t.quoteNotes start ++
      [.ofScanner .trace (kind.name ++ " at ".toList ++ Text.decimal t.position)]

end Token

/-- What a journal holds after a scan. -/
def Journal.records (limit : Option Level) (source : Text) : List Record :=
  (tokenize (Journal.keep limit) source #[]).2.toList

/-! ## Records of one step -/

namespace Token

theorem records_of_kind_ne {t : Token} (hn : t.kind ≠ .number) (he : t.kind ≠ .endOfText)
    (start : Nat) :
    t.records start = t.quoteNotes start ++
      [.ofScanner .trace (t.kind.name ++ " at ".toList ++ Text.decimal t.position)] := by
  unfold records
  split
  · contradiction
  · contradiction
  · contradiction
  · rfl

theorem quoteNotes_of_cause_ne {t : Token}
    (h : t.problem?.map Problem.cause ≠ some .unterminatedString) (quote : Nat) :
    t.quoteNotes quote = [] :=
  if_neg h

end Token

namespace Lexeme

theorem cause_tokenAt_of_ne {l : Lexeme} (hk : l.kind ≠ .bad) (p : Nat) :
    (l.tokenAt p).problem?.map Problem.cause = none := by
  rw [Token.problem?, if_neg (show (l.tokenAt p).kind ≠ .bad from hk)]
  rfl

theorem cause_tokenAt_of_eq {l : Lexeme} (hk : l.kind = .bad) (p : Nat) :
    (l.tokenAt p).problem?.map Problem.cause = some (Token.badCause l.text) := by
  rw [Token.problem?, if_pos (show (l.tokenAt p).kind = .bad from hk)]
  rfl

/-- A lexeme other than a number or a string that is not closed is only traced. -/
theorem records_tokenAt_of_plain {l : Lexeme} (hn : l.kind ≠ .number)
    (hc : l.kind = .bad → Token.badCause l.text ≠ .unterminatedString) (p : Nat) :
    (l.tokenAt p).records p = [(eventsAt.made l p).record] := by
  have hcause : (l.tokenAt p).problem?.map Problem.cause ≠ some .unterminatedString := by
    by_cases hk : l.kind = .bad
    · rw [cause_tokenAt_of_eq hk]
      exact fun h => hc hk (Option.some.inj h)
    · rw [cause_tokenAt_of_ne hk]
      exact nofun
  rw [Token.records_of_kind_ne hn l.kind_ne_endOfText, Token.quoteNotes_of_cause_ne hcause]
  rfl

/-- What a step tells leaves the records that its token and its start call for. -/
theorem records_tokenAt {l : Lexeme} (hw : l.WellFormed) (p : Nat) :
    (l.eventsAt p).map Event.record = (l.tokenAt p).records p := by
  cases l with
  | number digits =>
    cases hv : (number digits).value? with
    | some n => simp [eventsAt, hv, Token.records, tokenAt, kind]
    | none =>
      simp only [eventsAt, hv, Token.records, tokenAt, kind]
      rfl
  | blank | symbol | quoted =>
    exact (records_tokenAt_of_plain (by simp [kind]) (by simp [kind]) p).symm
  | word text =>
    rcases kind_word text with hk | ⟨k, hk⟩
    all_goals exact (records_tokenAt_of_plain (by simp [hk]) (by simp [hk]) p).symm
  | stray c =>
    have hcause := badCause_stray hw
    exact (records_tokenAt_of_plain (by simp [kind]) (by simp [hcause]) p).symm
  | cutOff content lineEnd =>
    have hcause := cause_tokenAt_of_eq (l := cutOff content lineEnd) rfl p
    rw [badCause_cutOff hw.2] at hcause
    -- the text of the token tells a line end from the quote of a string that runs off
    have htext : ((cutOff content lineEnd).tokenAt p).text ≠ ['"'] := by
      intro h
      obtain rfl : lineEnd = '"' := List.head_eq_of_cons_eq h
      cases hw.2
    rw [Token.records_of_kind_ne (by simp [tokenAt, kind]) (by simp [tokenAt, kind]),
      Token.quoteNotes, if_pos hcause, if_neg htext]
    rfl
  | openQuote =>
    have hcause : (openQuote.tokenAt p).problem?.map Problem.cause = some .unterminatedString :=
      cause_tokenAt_of_eq rfl p
    have htext : (openQuote.tokenAt p).text = ['"'] := rfl
    rw [Token.records_of_kind_ne (by simp [tokenAt, kind]) (by simp [tokenAt, kind]),
      Token.quoteNotes, if_pos hcause, if_pos htext]
    rfl

/-- A token that tells of a string that is not closed comes from a step that starts at its quote. -/
theorem exists_spelling_of_cause {l : Lexeme} (hw : l.WellFormed) {p : Nat}
    (h : (l.tokenAt p).problem?.map Problem.cause = some .unterminatedString) :
    ∃ tail, l.spelling = '"' :: tail := by
  have hk : l.kind = .bad := by
    by_contra hk
    rw [cause_tokenAt_of_ne hk] at h
    cases h
  have hl := l.inv_kind
  rw [hk] at hl
  rcases hl with ⟨content, lineEnd, rfl⟩ | rfl | ⟨c, rfl⟩
  · exact ⟨_, rfl⟩
  · exact ⟨_, rfl⟩
  · rw [cause_tokenAt_of_eq hk, badCause_stray hw] at h
    cases h

end Lexeme

/-! ## Records of whole scans -/

/-- A journal takes up the records of events in their order, but for those that its limit stops. -/
theorem Journal.toList_foldl_keep (limit : Option Level) (events : List Event)
    (records : Array Record) :
    (events.foldl (Journal.keep limit) records).toList =
      records.toList ++ (events.map Event.record).filter (·.level.passes limit) := by
  induction events generalizing records with
  | nil => simp
  | cons e events ih =>
    rw [List.foldl_cons, ih, List.map_cons, List.filter_cons, Journal.keep,
      show e.record.level = e.level from rfl]
    split <;> simp

theorem Level.passes_trace (level : Level) : level.passes (some .trace) = true := by
  cases level <;> rfl

/-- Only reported problems are warned of. -/
theorem Event.filter_warn (events : List Event) :
    (events.map Event.record).filter (·.level = .warn) =
      (events.filterMap Event.problem?).map .ofProblem := by
  induction events with
  | nil => rfl
  | cons e events ih =>
    rw [List.map_cons, List.filter_cons, ih, List.filterMap_cons]
    cases e <;> rfl

theorem map_record_eventsFrom (source : Text) :
    (eventsFrom 0 (lexemes source)).map Event.record =
      (List.range (lexemes source).length).flatMap fun i =>
        (answer source i).records (reached source i) := by
  have hmem : ∀ x ∈ placed 0 (lexemes source), x.2.WellFormed := by
    intro x hx
    refine (fitBefore_lexemes source).wellFormed x.2 ?_
    rw [← map_snd_placed 0 (lexemes source)]
    exact List.mem_map_of_mem hx
  calc (eventsFrom 0 (lexemes source)).map Event.record
      = (placed 0 (lexemes source)).flatMap fun x => (x.2.tokenAt x.1).records x.1 := by
        rw [eventsFrom, List.map_flatMap]
        exact List.flatMap_congr fun x hx => records_tokenAt (hmem x hx) x.1
    _ = ((placed 0 (lexemes source)).map fun x => (x.1, x.2.tokenAt x.1)).flatMap fun x =>
          x.2.records x.1 := by
        rw [List.flatMap_map]
    _ = _ := by
        rw [map_placed_lexemes, List.flatMap_map]

/-- What a scan tells, from its opening on. -/
def told (source : Text) : List Event :=
  Lexer.opening source :: eventsFrom 0 (lexemes source)

theorem Journal.records_eq (limit : Option Level) (source : Text) :
    Journal.records limit source =
      ((told source).map Event.record).filter (·.level.passes limit) := by
  rw [Journal.records, tokenize_eq, ← List.foldl_cons, toList_foldl_keep]
  rfl

theorem Journal.records_trace (source : Text) :
    Journal.records (some .trace) source = (told source).map Event.record := by
  rw [records_eq]
  exact List.filter_eq_self.mpr fun _ _ => Level.passes_trace _

/-- A journal of a scan tells its tokens, and neither journals nor other listeners change them. -/
structure JournalReplays (source : Text) : Prop where
  tokens_eq : ∀ {σ : Type} (hear : Listener σ) (heard : σ),
    (tokenize hear source heard).1 = (scan source).tokens
  /-- A limit leaves out the records of greater detail and nothing else. -/
  filtered : ∀ limit, Journal.records limit source =
    (Journal.records (some .trace) source).filter (·.level.passes limit)
  /-- The opening comes first, and then the records of the steps, to the end token. -/
  replayed : ∃ n, EndsAfter source n ∧
    Journal.records (some .trace) source =
      .ofScanner .debug ("Initializing lexer over ".toList ++
        Text.decimal (byteLength source) ++ " bytes".toList) ::
      (List.range (n + 1)).flatMap fun i => (answer source i).records (reached source i)
  /-- Where a note is left of a quote, the step starts at a quote. -/
  quote : ∀ i, (answer source i).problem?.map Problem.cause = some .unterminatedString →
    slice? source (reached source i) (reached source i + 1) = some ['"']
  /-- The warnings are the problems that a list of problems collects. -/
  warnings : (Journal.records (some .trace) source).filter (·.level = .warn) =
    (scan source).problems.map .ofProblem

theorem slice?_quote {source : Text} {i : Nat}
    (h : (answer source i).problem?.map Problem.cause = some .unterminatedString) :
    slice? source (reached source i) (reached source i + 1) = some ['"'] := by
  rcases Nat.lt_or_ge i (lexemes source).length with hi | hi
  · have hl := List.getElem?_eq_getElem hi
    rw [answer_of_getElem? hl] at h
    obtain ⟨tail, htail⟩ := exists_spelling_of_cause (wellFormed_of_getElem? hl) h
    have hs := source_eq_of_getElem? hl
    rw [htail] at hs
    refine Text.slice?_eq_some_iff.mpr ⟨spellings ((lexemes source).take i),
      tail ++ spellings ((lexemes source).drop (i + 1)), ?_, (reached_eq source i).symm, rfl⟩
    simpa using hs
  · rw [answer_of_length_le hi] at h
    cases h

theorem journal_replays (source : Text) : JournalReplays source where
  tokens_eq hear heard := by rw [tokenize_eq, tokens_scan]
  filtered limit := by rw [Journal.records_trace, Journal.records_eq]
  replayed := by
    refine ⟨_, endsAfter_length_lexemes source, ?_⟩
    have hend : (answer source (lexemes source).length).records
        (reached source (lexemes source).length) = [] := by
      rw [answer_of_length_le (Nat.le_refl _)]
      rfl
    rw [Journal.records_trace, told, List.map_cons, map_record_eventsFrom, List.range_succ,
      List.flatMap_append, List.flatMap_singleton, hend, List.append_nil]
    rfl
  quote _ := slice?_quote
  warnings := by
    rw [Journal.records_trace, Event.filter_warn, told, List.filterMap_cons,
      filterMap_problem?_eventsFrom, problems_scan]
    rfl

end ScriptScan
