import ScriptScan.Session
import ScriptScan.Proofs.ShownProblems

/-! # Lexers that share a list of problems

A session may be asked for tokens of any of its lexers, in any order and in any of the ways there
are. Each lexer comes along as if it were alone: what it has handed out is a start of its scan, and
what comes in with a request are the problems of the tokens handed out by it. One pull keeps a lexer
on its scan (`Passed.pull`), hence one request keeps a session in step with its past
(`Follows.answer`), hence any run of them does (`Follows.runOn`). -/

namespace ScriptScan
open Lexeme
open Text (byteLength)

/-! ## One lexer -/

/-- The tokens that a pull hands out of a text of which `n` tokens are handed out already. -/
def Pull.tokens (source : Text) (n : Nat) : Pull → List Token
  | step => ((scan source).tokens.drop n).take 1
  | next => ((scan source).tokens.dropLast.drop n).take 1
  | take count => ((scan source).tokens.dropLast.drop n).take count
  | rest => (scan source).tokens.dropLast.drop n
  | look => []

theorem Pull.tokens_step_of_lt {source : Text} {n : Nat} (h : n < (lexemes source).length) :
    Pull.step.tokens source n = Pull.next.tokens source n := by
  rw [tokens, tokens, dropLast_tokens_scan, tokens_scan,
    List.drop_append_of_le_length (by simpa using Nat.le_of_lt h),
    List.take_append_of_le_length (by simp; omega)]

theorem Pull.tokens_step_length (source : Text) :
    Pull.step.tokens source (lexemes source).length = [.endAt (byteLength source)] := by
  rw [tokens, tokens_scan, List.drop_left' (length_tokensFrom ..)]
  rfl

namespace Lexer

/-- The lexer has handed out `n` tokens of its text, and after the last of them the end token some
more times. -/
structure Passed (source : Text) (n : Nat) (lx : Lexer) (tokens : List Token) : Prop where
  le_length : n ≤ (lexemes source).length
  eq_skip : lx = (ofText source).skip n
  tokens_eq : ∃ ends, tokens = tokensFrom 0 ((lexemes source).take n) ++
    List.replicate ends (.endAt (byteLength source)) ∧ (0 < ends → n = (lexemes source).length)

theorem passed_zero (source : Text) : Passed source 0 (ofText source) [] :=
  ⟨Nat.zero_le _, (skip_zero _).symm, 0, rfl, fun h => absurd h (by decide)⟩

theorem pull_step_of_some {σ : Type} (hear : Listener σ) {lx : Lexer} {s : Step}
    (h : lx.next? = some s) (heard : σ) : lx.pull hear .step heard = lx.take hear 1 heard := by
  rw [take_succ_of_some hear h, pull, step, h]
  rfl

/-- At the end only a step hands out a token, and no pull goes anywhere. -/
theorem pull_of_none {σ : Type} (hear : Listener σ) {lx : Lexer} (h : lx.next? = none)
    (how : Pull) (heard : σ) :
    lx.pull hear how heard = ⟨if how = .step then [lx.endToken] else [], lx, heard⟩ := by
  have htake : ∀ count, lx.take hear count heard = ⟨[], lx, heard⟩
    | 0 => take_zero hear lx heard
    | count + 1 => take_succ_of_none hear h count heard
  cases how with
  | step =>
    rw [pull, step, h]
    rfl
  | next => exact htake 1
  | take count => exact htake count
  | rest => exact htake lx.rest.length
  | look => rfl

namespace Passed
variable {source : Text} {n : Nat} {lx : Lexer} {tokens : List Token}

theorem lexemes_rest (h : Passed source n lx tokens) :
    lexemes lx.rest = (lexemes source).drop n := by
  rw [h.eq_skip]
  exact lexemes_skip n _

theorem next?_eq_none_iff (h : Passed source n lx tokens) :
    lx.next? = none ↔ n = (lexemes source).length := by
  have hrest := h.lexemes_rest
  constructor
  · intro hnone
    by_contra hne
    have hlt := Nat.lt_of_le_of_ne h.le_length hne
    rw [List.drop_eq_getElem_cons hlt] at hrest
    rw [next?_of_cons hrest] at hnone
    cases hnone
  · intro hn
    rw [hn, List.drop_length] at hrest
    exact next?_of_nil hrest

theorem atEnd_iff (h : Passed source n lx tokens) :
    lx.atEnd = true ↔ n = (lexemes source).length := by
  rw [← h.next?_eq_none_iff, atEnd, List.isEmpty_iff, next?]
  cases lx.rest <;> simp

/-- Taking tokens keeps a lexer on its scan, and reports the problems of just these tokens. -/
theorem take (h : Passed source n lx tokens) (m : Nat) (heard : Array Problem) :
    (lx.take Problem.collect m heard).tokens = ((scan source).tokens.dropLast.drop n).take m ∧
      Passed source (min (n + m) (lexemes source).length) (lx.take Problem.collect m heard).after
        (tokens ++ ((scan source).tokens.dropLast.drop n).take m) ∧
      (lx.take Problem.collect m heard).heard.toList = heard.toList ++
        (((scan source).tokens.dropLast.drop n).take m).filterMap Token.tooLarge? := by
  obtain ⟨-, rfl, ends, rfl, hends⟩ := h
  have hrest : lexemes ((ofText source).skip n).rest = (lexemes source).drop n := lexemes_skip n _
  have htokens : tokensFrom ((ofText source).skip n).position (((lexemes source).drop n).take m) =
      ((scan source).tokens.dropLast.drop n).take m := by
    rw [tokensFrom_take, dropLast_tokens_scan, ← tokensFrom_drop]
    rfl
  have hcut : (lexemes source).take (min (n + m) (lexemes source).length) =
      (lexemes source).take n ++ ((lexemes source).drop n).take m := by
    rw [← List.take_eq_take_min, List.take_add]
  rw [take_eq, hrest]
  refine ⟨htokens, ⟨Nat.min_le_right _ _, ?_, ends, ?_, ?_⟩, ?_⟩
  · rw [skip_skip]
    exact (skip_min (n + m) (ofText source)).symm
  · rcases Nat.eq_zero_or_pos ends with rfl | hpos
    · rw [hcut, tokensFrom_append, ← htokens]
      simp [skip, ofText]
    · -- behind the end token there is nothing left to take
      rw [hends hpos, dropLast_tokens_scan, List.drop_of_length_le (by simp),
        Nat.min_eq_right (Nat.le_add_right _ _), List.take_nil, List.append_nil]
  · intro hpos
    rw [hends hpos]
    omega
  · rw [Problem.toList_foldl_collect, filterMap_problem?_eventsFrom, problemsFrom_eq_filterMap,
      htokens]

/-- No more tokens are left than characters, as each has one ahead. -/
theorem take_length_rest (h : Passed source n lx tokens) :
    ((scan source).tokens.dropLast.drop n).take lx.rest.length =
      (scan source).tokens.dropLast.drop n := by
  have hrest := length_lexemes_le lx.rest
  rw [h.lexemes_rest, List.length_drop] at hrest
  apply List.take_of_length_le
  rwa [List.length_drop, dropLast_tokens_scan, length_tokensFrom]

theorem endToken_eq (h : Passed source (lexemes source).length lx tokens) :
    lx.endToken = .endAt (byteLength source) := by
  rw [h.eq_skip, Lexer.endToken, skip, ofText, Nat.zero_add, List.take_length, spellings_lexemes]
  rfl

/-- At the end a lexer hands out the end token as often as it is asked, and stays where it is. -/
theorem append_endToken (h : Passed source (lexemes source).length lx tokens) :
    Passed source (lexemes source).length lx (tokens ++ [lx.endToken]) := by
  obtain ⟨ends, htokens, -⟩ := h.tokens_eq
  refine ⟨h.le_length, h.eq_skip, ends + 1, ?_, fun _ => rfl⟩
  rw [htokens, h.endToken_eq, List.append_assoc, List.replicate_succ']

/-- A pull keeps a lexer on its scan: it hands out the tokens that come next, and reports the
problems of just these. -/
theorem pull (h : Passed source n lx tokens) (how : Pull) (heard : Array Problem) :
    (lx.pull Problem.collect how heard).tokens = how.tokens source n ∧
      (∃ m, Passed source m (lx.pull Problem.collect how heard).after
        (tokens ++ how.tokens source n)) ∧
      (lx.pull Problem.collect how heard).heard.toList =
        heard.toList ++ (how.tokens source n).filterMap Token.tooLarge? := by
  cases how with
  | step =>
    by_cases hn : n = (lexemes source).length
    · subst hn
      rw [pull_of_none _ (h.next?_eq_none_iff.mpr rfl), Pull.tokens_step_length, ← h.endToken_eq]
      exact ⟨rfl, ⟨_, h.append_endToken⟩, (List.append_nil _).symm⟩
    · obtain ⟨s, hs⟩ := Option.ne_none_iff_exists'.mp (mt h.next?_eq_none_iff.mp hn)
      rw [pull_step_of_some _ hs, Pull.tokens_step_of_lt (Nat.lt_of_le_of_ne h.le_length hn)]
      obtain ⟨ht, hp, ha⟩ := h.take 1 heard
      exact ⟨ht, ⟨_, hp⟩, ha⟩
  | next =>
    obtain ⟨ht, hp, ha⟩ := h.take 1 heard
    exact ⟨ht, ⟨_, hp⟩, ha⟩
  | take count =>
    obtain ⟨ht, hp, ha⟩ := h.take count heard
    exact ⟨ht, ⟨_, hp⟩, ha⟩
  | rest =>
    obtain ⟨ht, hp, ha⟩ := h.take lx.rest.length heard
    rw [h.take_length_rest] at ht hp ha
    exact ⟨ht, ⟨_, hp⟩, ha⟩
  | look =>
    rw [Pull.tokens, List.append_nil]
    exact ⟨rfl, ⟨n, h⟩, (List.append_nil _).symm⟩

/-- The lexer stands behind the last token that it handed out. -/
theorem position_eq (h : Passed source n lx tokens) :
    lx.position = tokens.getLast?.elim 0 fun t => t.position + byteLength t.written := by
  obtain ⟨ends, htokens, hends⟩ := h.tokens_eq
  have hpos : lx.position = reached source n := by
    rw [h.eq_skip, reached, advance_eq_skip]
  rw [hpos, htokens]
  cases ends with
  | succ ends =>
    rw [List.replicate_succ', ← List.append_assoc, List.getLast?_concat, Option.elim_some,
      hends (Nat.succ_pos _), reached_of_length_le (Nat.le_refl _)]
    rfl
  | zero =>
    rw [List.replicate_zero, List.append_nil]
    cases n with
    | zero => rfl
    | succ n =>
      have hlt : n < (lexemes source).length := h.le_length
      have hl := List.getElem?_eq_getElem hlt
      have htake : tokensFrom 0 ((lexemes source).take (n + 1)) =
          tokensFrom 0 ((lexemes source).take n) ++
            [(lexemes source)[n].tokenAt (reached source n)] := by
        rw [List.take_add_one, hl, tokensFrom_append, ← reached_eq, Nat.zero_add]
        rfl
      rw [htake, List.getLast?_concat, Option.elim_some, position_add_written, reached_succ hl]

/-- The lexer is at its end just if all tokens before the end token are handed out. -/
theorem atEnd_iff_prefix (h : Passed source n lx tokens) :
    lx.atEnd = true ↔ (scan source).tokens.dropLast <+: tokens := by
  obtain ⟨ends, htokens, hends⟩ := h.tokens_eq
  rw [h.atEnd_iff, dropLast_tokens_scan, htokens]
  constructor
  · intro hn
    rw [hn, List.take_length]
    exact List.prefix_append _ _
  · intro hprefix
    have hle := hprefix.length_le
    have hn := h.le_length
    simp only [List.length_append, length_tokensFrom, List.length_take, List.length_replicate]
      at hle
    rcases Nat.eq_zero_or_pos ends with hzero | hpos
    · omega
    · exact hends hpos

theorem filterMap_tooLarge?_prefix (h : Passed source n lx tokens) :
    tokens.filterMap Token.tooLarge? <+: (scan source).problems := by
  obtain ⟨ends, rfl, -⟩ := h.tokens_eq
  have hends : (List.replicate ends (Token.endAt (byteLength source))).filterMap
      Token.tooLarge? = [] := by
    rw [List.filterMap_replicate_of_none rfl]
  rw [List.filterMap_append, hends, List.append_nil, tokensFrom_take, problems_scan,
    problemsFrom_eq_filterMap]
  exact (List.take_prefix _ _).filterMap _

end Passed
end Lexer

/-! ## What a past holds -/

/-- The text over which a request opens a lexer. -/
def Request.source? : Request → Option Text
  | start source => some source
  | _ => none

/-- The request asks the lexer with this number for tokens. -/
def Request.pulls (k : Nat) : Request → Bool
  | pull lexer _ => lexer = k
  | _ => false

/-- The request names no lexer but one of the first so many. -/
def Request.names (lexers : Nat) : Request → Bool
  | start _ => true
  | report _ => true
  | pull k _ => k < lexers
  | close k => k < lexers

/-- The problems that a request reports by itself. -/
def Request.told : Request → List Problem
  | report problem => [problem]
  | _ => []

/-- The tokens that a reply hands out. -/
def Reply.tokens : Reply → List Token
  | pulled tokens _ => tokens
  | _ => []

/-- Each request names a lexer opened before it, where so many are open at first. -/
def namesOpened (lexers : Nat) : List Request → Bool
  | [] => true
  | request :: requests =>
    request.names lexers && namesOpened (lexers + request.source?.toList.length) requests

/-- The texts over which lexers were opened, in the order of opening. -/
def opened (past : List (Request × Answer)) : List Text := past.filterMap (·.1.source?)

/-- The tokens that one lexer has handed out. -/
def handedOut (k : Nat) (past : List (Request × Answer)) : List Token :=
  (past.filter (·.1.pulls k)).flatMap (·.2.reply.tokens)

/-- The problems that came in while tokens of one lexer were asked for. -/
def reportedBy (k : Nat) (past : List (Request × Answer)) : List Problem :=
  (past.filter (·.1.pulls k)).flatMap (·.2.arrived)

theorem opened_concat (past : List (Request × Answer)) (request : Request) (answer : Answer) :
    opened (past ++ [(request, answer)]) = opened past ++ request.source?.toList := by
  rw [opened, List.filterMap_append]
  cases request <;> rfl

theorem handedOut_concat (k : Nat) (past : List (Request × Answer)) (request : Request)
    (answer : Answer) :
    handedOut k (past ++ [(request, answer)]) =
      handedOut k past ++ if request.pulls k then answer.reply.tokens else [] := by
  rw [handedOut, List.filter_append, List.flatMap_append]
  cases h : request.pulls k <;> simp [h, handedOut]

/-! ## One request -/

namespace Session
variable {session next last : Session} {past : List (Request × Answer)}

theorem answer_start (session : Session) (source : Text) :
    session.answer (.start source) =
      some ({ session with lexers := session.lexers.push (.ofText source) },
        ⟨.started session.lexers.size, []⟩) := by
  simp [answer, respond, Problem.collect, Lexer.opening]

theorem answer_report (session : Session) (problem : Problem) :
    session.answer (.report problem) =
      some ({ session with problems := session.problems.push problem },
        ⟨.reported, [problem]⟩) := by
  simp [answer, respond, Problem.collect]

theorem answer_close {k : Nat} {lx : Lexer} (hk : session.lexers[k]? = some lx) :
    session.answer (.close k) = some (session, ⟨.closed session.problems.toList, []⟩) := by
  simp [answer, respond, hk]

/-- A lexer on its scan answers a pull with the tokens that come next, and the problems of just
these come in. -/
theorem answer_pull {k : Nat} {source : Text} {n : Nat} {lx : Lexer} {tokens : List Token}
    (hk : session.lexers[k]? = some lx) (h : Lexer.Passed source n lx tokens) (how : Pull) :
    ∃ after problems,
      session.answer (.pull k how) =
        some ({ lexers := session.lexers.setIfInBounds k after, problems },
          ⟨.pulled (how.tokens source n) after,
            (how.tokens source n).filterMap Token.tooLarge?⟩) ∧
      problems.toList =
        session.problems.toList ++ (how.tokens source n).filterMap Token.tooLarge? ∧
      ∃ m, Lexer.Passed source m after (tokens ++ how.tokens source n) := by
  obtain ⟨htokens, hafter, hheard⟩ := h.pull how session.problems
  refine ⟨_, _, ?_, hheard, hafter⟩
  simp [answer, respond, hk, htokens, hheard]

theorem names_of_answer {request : Request} {given : Answer}
    (h : session.answer request = some (next, given)) :
    request.names session.lexers.size = true := by
  cases request with
  | start | report => rfl
  | pull k | close k =>
    refine decide_eq_true (Decidable.by_contra fun hk => ?_)
    have hnone : session.lexers[k]? = none := Array.getElem?_eq_none (Nat.le_of_not_lt hk)
    simp [answer, respond, hnone] at h

/-- A session stands where its past has led it: each lexer has handed out a start of its scan, and
the problems are those that came in with the requests, one after the other. -/
structure Follows (session : Session) (past : List (Request × Answer)) : Prop where
  size_lexers : session.lexers.size = (opened past).length
  passed : ∀ k source, (opened past)[k]? = some source →
    ∃ n lx, session.lexers[k]? = some lx ∧ Lexer.Passed source n lx (handedOut k past)
  handedOut_eq_nil : ∀ k, (opened past).length ≤ k → handedOut k past = []
  arrived_eq : ∀ made ∈ past,
    made.2.arrived = made.1.told ++ made.2.reply.tokens.filterMap Token.tooLarge?
  problems_eq : session.problems.toList = past.flatMap (·.2.arrived)

theorem follows_nil : ({} : Session).Follows [] :=
  ⟨rfl, fun _ _ h => (nomatch h), fun _ _ => rfl, fun _ h => (List.not_mem_nil h).elim, rfl⟩

namespace Follows
variable {request : Request} {given : Answer}

theorem reportedBy_eq (h : session.Follows past) (k : Nat) :
    reportedBy k past = (handedOut k past).filterMap Token.tooLarge? := by
  rw [reportedBy, handedOut, List.filterMap_flatMap]
  refine List.flatMap_congr fun made hmade => ?_
  obtain ⟨hmem, hpulls⟩ := List.mem_filter.mp hmade
  have htold : made.1.told = [] := by
    cases hm : made.1 with
    | pull | start | close => rfl
    | report => rw [hm] at hpulls; cases hpulls
  rw [h.arrived_eq made hmem, htold, List.nil_append]

/-- Where the lexers after a request are on their scans and its problems came in at the end, the
session follows its past. -/
theorem concat (h : session.Follows past)
    (hsize : next.lexers.size = session.lexers.size + request.source?.toList.length)
    (hpassed : ∀ k source, (opened past ++ request.source?.toList)[k]? = some source →
      ∃ n lx, next.lexers[k]? = some lx ∧
        Lexer.Passed source n lx
          (handedOut k past ++ if request.pulls k then given.reply.tokens else []))
    (hpulls : ∀ k, session.lexers.size ≤ k → request.pulls k = false)
    (harrived : given.arrived =
      request.told ++ given.reply.tokens.filterMap Token.tooLarge?)
    (hproblems : next.problems.toList = session.problems.toList ++ given.arrived) :
    next.Follows (past ++ [(request, given)]) := by
  refine ⟨?_, ?_, ?_, ?_, ?_⟩
  · rw [hsize, opened_concat, List.length_append, h.size_lexers]
  · intro k source hk
    rw [opened_concat] at hk
    rw [handedOut_concat]
    exact hpassed k source hk
  · intro k hk
    rw [opened_concat, List.length_append] at hk
    have hle := Nat.le_of_add_right_le hk
    rw [handedOut_concat, h.handedOut_eq_nil k hle, hpulls k (h.size_lexers ▸ hle)]
    rfl
  · intro made hmade
    rcases List.mem_append.mp hmade with hold | hnew
    · exact h.arrived_eq made hold
    · rw [List.mem_singleton.mp hnew]
      exact harrived
  · rw [hproblems, h.problems_eq, List.flatMap_append, List.flatMap_singleton]

/-- A request that neither opens a lexer nor asks one for tokens leaves all of them in place. -/
theorem concat_of_quiet (h : session.Follows past) (hlexers : next.lexers = session.lexers)
    (hsource : request.source? = none) (hpulls : ∀ k, request.pulls k = false)
    (harrived : given.arrived =
      request.told ++ given.reply.tokens.filterMap Token.tooLarge?)
    (hproblems : next.problems.toList = session.problems.toList ++ given.arrived) :
    next.Follows (past ++ [(request, given)]) := by
  refine h.concat (by rw [hlexers, hsource]; rfl) ?_ (fun k _ => hpulls k) harrived hproblems
  intro k source hk
  rw [hsource, Option.toList_none, List.append_nil] at hk
  obtain ⟨n, lx, hlx, hpassed⟩ := h.passed k source hk
  exact ⟨n, lx, by rw [hlexers, hlx], by simpa [hpulls] using hpassed⟩

theorem start (h : session.Follows past) (source : Text)
    (ha : session.answer (.start source) = some (next, given)) :
    next.Follows (past ++ [(.start source, given)]) := by
  rw [answer_start] at ha
  obtain ⟨rfl, rfl⟩ := Prod.mk.inj (Option.some.inj ha)
  refine h.concat (Array.size_push _) ?_ (fun _ _ => rfl) rfl (List.append_nil _).symm
  intro k text hk
  rcases Nat.lt_or_ge k (opened past).length with hlt | hge
  · rw [List.getElem?_append_left hlt] at hk
    obtain ⟨n, lx, hlx, hpassed⟩ := h.passed k text hk
    have hne : k ≠ session.lexers.size := by
      rw [h.size_lexers]
      exact Nat.ne_of_lt hlt
    exact ⟨n, lx, by rw [Array.getElem?_push, if_neg hne, hlx], by
      simpa [Request.pulls] using hpassed⟩
  · -- the new lexer has the first number that is free, under which nothing was handed out
    have hnew : k = (opened past).length := by
      have hlt := (List.getElem?_eq_some_iff.mp hk).1
      rw [List.length_append] at hlt
      exact Nat.le_antisymm (Nat.le_of_lt_succ hlt) hge
    subst hnew
    rw [List.getElem?_append_right hge, Nat.sub_self] at hk
    obtain rfl : source = text := Option.some.inj hk
    refine ⟨0, .ofText source, by rw [Array.getElem?_push, h.size_lexers, if_pos rfl], ?_⟩
    rw [h.handedOut_eq_nil _ (Nat.le_refl _)]
    exact Lexer.passed_zero source

theorem pull (h : session.Follows past) {lexer : Nat} {how : Pull}
    (ha : session.answer (.pull lexer how) = some (next, given)) :
    next.Follows (past ++ [(.pull lexer how, given)]) := by
  have hlt : lexer < session.lexers.size := of_decide_eq_true (names_of_answer ha)
  obtain ⟨source, hsource⟩ : ∃ source, (opened past)[lexer]? = some source :=
    ⟨_, List.getElem?_eq_getElem (h.size_lexers ▸ hlt)⟩
  obtain ⟨n, lx, hlx, hpassed⟩ := h.passed lexer source hsource
  obtain ⟨after, problems, hanswer, hproblems, m, hafter⟩ := answer_pull hlx hpassed how
  rw [hanswer] at ha
  obtain ⟨rfl, rfl⟩ := Prod.mk.inj (Option.some.inj ha)
  -- only the lexer asked moves, and only its own tokens are handed out
  refine h.concat Array.size_setIfInBounds ?_ ?_ (List.nil_append _).symm hproblems
  · intro k text hk
    replace hk : (opened past)[k]? = some text := by simpa [Request.source?] using hk
    by_cases hkl : lexer = k
    · subst hkl
      obtain rfl : source = text := Option.some.inj (hsource.symm.trans hk)
      refine ⟨m, after, Array.getElem?_setIfInBounds_self_of_lt hlt, ?_⟩
      simpa [Request.pulls, Reply.tokens] using hafter
    · obtain ⟨n, lx, hlx, hpassed⟩ := h.passed k text hk
      refine ⟨n, lx, by rw [Array.getElem?_setIfInBounds_ne hkl, hlx], ?_⟩
      simpa [Request.pulls, hkl] using hpassed
  · intro k hk
    exact decide_eq_false (Nat.ne_of_lt (Nat.lt_of_lt_of_le hlt hk))

/-- One request keeps a session in step with its past. -/
theorem answer (h : session.Follows past) (ha : session.answer request = some (next, given)) :
    next.Follows (past ++ [(request, given)]) := by
  cases request with
  | start source => exact h.start source ha
  | pull lexer how => exact h.pull ha
  | report problem =>
    rw [answer_report] at ha
    obtain ⟨rfl, rfl⟩ := Prod.mk.inj (Option.some.inj ha)
    exact h.concat_of_quiet rfl rfl (fun _ => rfl) rfl Array.toList_push
  | close lexer =>
    have hlx := Array.getElem?_eq_getElem (of_decide_eq_true (names_of_answer ha))
    rw [answer_close hlx] at ha
    obtain ⟨rfl, rfl⟩ := Prod.mk.inj (Option.some.inj ha)
    exact h.concat_of_quiet rfl rfl (fun _ => rfl) rfl (List.append_nil _).symm

end Follows

/-- A pull after which the lexer stands where it stood, and that brings nothing, changes nothing. -/
theorem answer_pull_of_stays {k : Nat} {lx : Lexer} (hk : session.lexers[k]? = some lx)
    {how : Pull} {tokens : List Token}
    (h : lx.pull Problem.collect how session.problems = ⟨tokens, lx, session.problems⟩) :
    session.answer (.pull k how) = some (session, ⟨.pulled tokens lx, []⟩) := by
  obtain ⟨hlt, rfl⟩ := Array.getElem?_eq_some_iff.mp hk
  have hset : session.lexers.setIfInBounds k session.lexers[k] = session.lexers := by
    rw [Array.setIfInBounds_def, dif_pos hlt, Array.set_getElem_self]
  simp [answer, respond, hk, h, hset]

/-! ## Runs -/

/-- A run: the session it leads to, and each request with its answer. -/
def runOn (session : Session) : List Request → Option (Session × List (Request × Answer))
  | [] => some (session, [])
  | request :: requests => do
    let (next, given) ← session.answer request
    let (last, others) ← next.runOn requests
    some (last, (request, given) :: others)

theorem runOn_cons_eq_some_iff {request : Request} {requests : List Request} :
    session.runOn (request :: requests) = some (last, past) ↔
      ∃ next given others, session.answer request = some (next, given) ∧
        next.runOn requests = some (last, others) ∧ past = (request, given) :: others := by
  simp only [runOn, Option.bind_eq_bind, Option.bind_eq_some_iff, Prod.exists, Option.some.injEq,
    Prod.mk.injEq]
  constructor
  · rintro ⟨next, given, ha, last', others, ho, rfl, rfl⟩
    exact ⟨next, given, others, ha, ho, rfl⟩
  · rintro ⟨next, given, others, ha, ho, rfl⟩
    exact ⟨next, given, ha, last, others, ho, rfl, rfl⟩

theorem run_eq_map_runOn (session : Session) (requests : List Request) :
    session.run requests = (session.runOn requests).map fun r => r.2.map Prod.snd := by
  induction requests generalizing session with
  | nil => rfl
  | cons request requests ih =>
    rw [run, runOn]
    cases session.answer request with
    | none => rfl
    | some r =>
      simp only [Option.bind_eq_bind, Option.bind_some, ih]
      cases r.1.runOn requests <;> rfl

theorem map_fst_of_runOn {requests : List Request}
    (h : session.runOn requests = some (last, past)) : past.map Prod.fst = requests := by
  induction requests generalizing session past with
  | nil =>
    obtain ⟨-, rfl⟩ := Prod.mk.inj (Option.some.inj h)
    rfl
  | cons request requests ih =>
    obtain ⟨next, given, others, -, ho, rfl⟩ := runOn_cons_eq_some_iff.mp h
    rw [List.map_cons, ih ho]

/-- A run stops anywhere and goes on from there. -/
theorem runOn_of_append {earlier later : List (Request × Answer)}
    (h : session.runOn ((earlier ++ later).map Prod.fst) = some (last, earlier ++ later)) :
    ∃ before, session.runOn (earlier.map Prod.fst) = some (before, earlier) := by
  induction earlier generalizing session with
  | nil => exact ⟨session, rfl⟩
  | cons made earlier ih =>
    obtain ⟨request, given⟩ := made
    obtain ⟨next, _, _, ha, ho, heq⟩ := runOn_cons_eq_some_iff.mp h
    injection heq with hmade hothers
    injection hmade with _ hgiven
    subst hgiven hothers
    obtain ⟨before, hbefore⟩ := ih ho
    exact ⟨before, runOn_cons_eq_some_iff.mpr ⟨next, given, earlier, ha, hbefore, rfl⟩⟩

/-- A run keeps a session in step with its past. -/
theorem Follows.runOn (h : session.Follows past) {requests : List Request}
    {more : List (Request × Answer)} (hrun : session.runOn requests = some (last, more)) :
    last.Follows (past ++ more) := by
  induction requests generalizing session past more with
  | nil =>
    obtain ⟨rfl, rfl⟩ := Prod.mk.inj (Option.some.inj hrun)
    rwa [List.append_nil]
  | cons request requests ih =>
    obtain ⟨next, given, others, ha, ho, rfl⟩ := runOn_cons_eq_some_iff.mp hrun
    rw [List.append_cons]
    exact ih (h.answer ha) ho

theorem exists_answer {request : Request} (h : request.names session.lexers.size = true) :
    ∃ next given, session.answer request = some (next, given) ∧
      next.lexers.size = session.lexers.size + request.source?.toList.length := by
  cases request with
  | start source => exact ⟨_, _, answer_start session source, Array.size_push _⟩
  | report problem => exact ⟨_, _, answer_report session problem, rfl⟩
  | pull k how =>
    have hk := Array.getElem?_eq_getElem (of_decide_eq_true h)
    refine ⟨_, _, by rw [answer, respond, hk]; rfl, Array.size_setIfInBounds⟩
  | close k => exact ⟨_, _, answer_close (Array.getElem?_eq_getElem (of_decide_eq_true h)), rfl⟩

theorem exists_runOn (session : Session) {requests : List Request}
    (h : namesOpened session.lexers.size requests = true) :
    ∃ last past, session.runOn requests = some (last, past) := by
  induction requests generalizing session with
  | nil => exact ⟨session, [], rfl⟩
  | cons request requests ih =>
    obtain ⟨hfirst, hothers⟩ := Bool.and_eq_true_iff.mp h
    obtain ⟨next, given, ha, hsize⟩ := exists_answer hfirst
    obtain ⟨last, others, ho⟩ := ih next (hsize ▸ hothers)
    exact ⟨last, _, runOn_cons_eq_some_iff.mpr ⟨next, given, others, ha, ho, rfl⟩⟩

/-- The lexer with the number `k`, which reads `source` and has handed out `n` of its tokens: what
it did in the past of a session, and what it answers next. -/
structure Serves (session : Session) (past : List (Request × Answer)) (k : Nat) (source : Text)
    (n : Nat) (lx : Lexer) : Prop where
  lexer_eq : session.lexers[k]? = some lx
  le_length : n ≤ (scan source).tokens.dropLast.length
  /-- Nothing is lost, repeated or put out of order; only the end token comes more than once. -/
  handedOut_eq : ∃ ends, handedOut k past = (scan source).tokens.dropLast.take n ++
    List.replicate ends (.endAt (byteLength source)) ∧
      (0 < ends → n = (scan source).tokens.dropLast.length)
  position_eq : lx.position =
    (handedOut k past).getLast?.elim 0 fun t => t.position + byteLength t.written
  atEnd_iff : lx.atEnd = true ↔ (scan source).tokens.dropLast <+: handedOut k past
  reportedBy_eq : reportedBy k past = (handedOut k past).filterMap Token.tooLarge?
  reportedBy_prefix : reportedBy k past <+: (scan source).problems
  answer_eq : ∀ how, ∃ next after,
    session.answer (.pull k how) =
      some (next, ⟨.pulled (how.tokens source n) after,
        (how.tokens source n).filterMap Token.tooLarge?⟩) ∧
    next.lexers[k]? = some after
  answer_look : session.answer (.pull k .look) = some (session, ⟨.pulled [] lx, []⟩)
  answer_of_atEnd : lx.atEnd = true → ∀ how,
    session.answer (.pull k how) =
      some (session,
        ⟨.pulled (if how = .step then [.endAt (byteLength source)] else []) lx, []⟩)

theorem Follows.serves {past : List (Request × Answer)} (h : session.Follows past) {k : Nat}
    {source : Text} (hk : (opened past)[k]? = some source) :
    ∃ n lx, session.Serves past k source n lx := by
  obtain ⟨n, lx, hlx, hpassed⟩ := h.passed k source hk
  obtain ⟨hlt, -⟩ := Array.getElem?_eq_some_iff.mp hlx
  refine ⟨n, lx, hlx, ?_, ?_, hpassed.position_eq, hpassed.atEnd_iff_prefix, h.reportedBy_eq k,
    ?_, ?_, ?_, ?_⟩
  · rw [dropLast_tokens_scan, length_tokensFrom]
    exact hpassed.le_length
  · rw [dropLast_tokens_scan, length_tokensFrom, ← tokensFrom_take]
    exact hpassed.tokens_eq
  · rw [h.reportedBy_eq]
    exact hpassed.filterMap_tooLarge?_prefix
  · intro how
    obtain ⟨after, problems, hanswer, -⟩ := answer_pull hlx hpassed how
    exact ⟨_, after, hanswer, Array.getElem?_setIfInBounds_self_of_lt hlt⟩
  · exact answer_pull_of_stays hlx rfl
  · intro hend how
    obtain rfl := hpassed.atEnd_iff.mp hend
    refine answer_pull_of_stays hlx ?_
    rw [Lexer.pull_of_none _ (hpassed.next?_eq_none_iff.mpr rfl), hpassed.endToken_eq]

/-- What holds of a session whatever was asked of its lexers, and in whatever order. -/
structure Interleaves (session : Session) (past : List (Request × Answer)) : Prop where
  size_lexers : session.lexers.size = (opened past).length
  serves : ∀ k source, (opened past)[k]? = some source →
    ∃ n lx, session.Serves past k source n lx
  /-- A request brings in what it reports itself and the problems of the tokens handed out. -/
  arrived_eq : ∀ made ∈ past,
    made.2.arrived = made.1.told ++ made.2.reply.tokens.filterMap Token.tooLarge?
  problems_eq : session.problems.toList = past.flatMap (·.2.arrived)
  /-- The problems after any of the requests stay in front. -/
  grows : ∀ earlier later, past = earlier ++ later → ∃ before,
    runOn {} (earlier.map Prod.fst) = some (before, earlier) ∧
      session.problems.toList = before.problems.toList ++ later.flatMap (·.2.arrived)

/-- Lexers over one list of problems may be asked for tokens in any order and in any mix: each hands
out its own scan and nothing else, stands behind the last token handed out, and answers on at its
end without a change; and the list grows by what each request brings in. -/
theorem lexers_interleave {requests : List Request} (h : namesOpened 0 requests = true) :
    ∃ session past,
      runOn {} requests = some (session, past) ∧ past.map Prod.fst = requests ∧
      run {} requests = some (past.map Prod.snd) ∧ session.Interleaves past := by
  obtain ⟨session, past, hrun⟩ := exists_runOn {} h
  have hrequests := map_fst_of_runOn hrun
  have hfollows : session.Follows past := follows_nil.runOn hrun
  refine ⟨session, past, hrun, hrequests, by rw [run_eq_map_runOn, hrun]; rfl,
    hfollows.size_lexers, fun _ _ => hfollows.serves, hfollows.arrived_eq, hfollows.problems_eq, ?_⟩
  rintro earlier later rfl
  obtain ⟨before, hbefore⟩ := runOn_of_append (hrequests ▸ hrun)
  have hearlier : before.Follows earlier := follows_nil.runOn hbefore
  refine ⟨before, hbefore, ?_⟩
  rw [hfollows.problems_eq, hearlier.problems_eq, List.flatMap_append]

/-- Two lexers in turn, each asked beyond its end, with a report in between. -/
def twoInTurn : List Request :=
  [.start "é 9999999999".toList, .start "\"x\n1".toList, .pull 0 .step, .pull 1 .next,
    .report ⟨.unterminatedString, 7⟩, .pull 0 (.take 5), .pull 1 .rest, .pull 1 .step,
    .pull 0 .next, .pull 0 (.take 0), .pull 0 .step, .pull 1 .look]

theorem lexers_interleave_twoInTurn :
    namesOpened 0 twoInTurn = true ∧ ∃ session past,
      runOn {} twoInTurn = some (session, past) ∧ past.map Prod.fst = twoInTurn ∧
      run {} twoInTurn = some (past.map Prod.snd) ∧ session.Interleaves past ∧
      session.problems.toList =
        [⟨.unterminatedString, 7⟩, ⟨.numberTooLarge "9999999999".toList, 3⟩] := by
  have hnames : namesOpened 0 twoInTurn = true := by decide
  have hproblems : (runOn {} twoInTurn).map (·.1.problems.toList) =
      some [⟨.unterminatedString, 7⟩, ⟨.numberTooLarge "9999999999".toList, 3⟩] := by
    decide +kernel
  obtain ⟨session, past, hrun, hrequests, hanswers, h⟩ := lexers_interleave hnames
  rw [hrun, Option.map_some] at hproblems
  exact ⟨hnames, session, past, hrun, hrequests, hanswers, h, Option.some.inj hproblems⟩

end Session

end ScriptScan
