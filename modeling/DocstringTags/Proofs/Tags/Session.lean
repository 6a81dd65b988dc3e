import DocstringTags.Proofs.Tags.Run

/-! Cursors in use. A session is a cursor with a record of the tags that it has used up since its last
start; where cursors are copied, several sessions over one text go on side by side. `Cursor.Takes`
says what a cursor hands out on its way, and every operation on a cursor is such a way. Main
statements: `Session.Sound.move` for one operation, `Session.Sound.run` for a sequence of them, and
`Session.run_replays`, by which each session goes through the tags of the text from its start on.
-/

set_option autoImplicit false

namespace DocstringTags

namespace Cursor

inductive Takes : Cursor → List Span → Cursor → Prop where
  | refl (c : Cursor) : Takes c [] c
  | step {c moved later : Cursor} {span : Span} {spans : List Span}
    (h : c.next = (some span, moved)) (more : Takes moved spans later) :
    Takes c (span :: spans) later

def take (c : Cursor) : Nat → List Span × Cursor
  | 0 => ([], c)
  | n + 1 =>
    match c.next with
    | (none, stopped) => ([], stopped)
    | (some span, moved) => (span :: (moved.take n).1, (moved.take n).2)

section
variable {c moved later last : Cursor} {text : String} {span : Span} {spans more : List Span}

theorem next_eq_none (h : c.next.1 = none) : c.next = (none, c) := by
  unfold next at h ⊢
  split at h
  · rfl
  · cases h

theorem next_cases (c : Cursor) :
    c.next = (none, c) ∨ ∃ span moved, c.next = (some span, moved) := by
  cases h : c.next.1 with
  | none => exact .inl (next_eq_none h)
  | some span => exact .inr ⟨span, c.next.2, by rw [← h]⟩

theorem drain_of_none (h : c.next = (none, c)) : c.drain = ([], c) := by
  rw [drain]
  split
  · next stopped hn => rw [h] at hn; cases hn; rfl
  · next span moved hn => rw [h] at hn; cases hn

theorem drain_of_some (h : c.next = (some span, moved)) :
    c.drain = (span :: moved.drain.1, moved.drain.2) := by
  rw [drain]
  split
  · next stopped hn => rw [h] at hn; cases hn
  · next span' moved' hn => rw [h] at hn; cases hn; rfl

theorem remaining_of_none (h : c.next = (none, c)) : c.remaining = [] := by
  rw [remaining, drain_of_none h]

theorem remaining_of_some (h : c.next = (some span, moved)) :
    c.remaining = span :: moved.remaining := by
  rw [remaining, drain_of_some h, remaining]

theorem next_of_remaining_eq_nil (h : c.remaining = []) : c.next = (none, c) := by
  rcases c.next_cases with hn | ⟨span, moved, hn⟩
  · exact hn
  · rw [remaining_of_some hn] at h
    cases h

theorem next_fst (c : Cursor) : c.next.1 = c.remaining.head? := by
  rcases c.next_cases with h | ⟨span, moved, h⟩
  · rw [remaining_of_none h, h]
    rfl
  · rw [remaining_of_some h, h]
    rfl

namespace Takes

theorem of_next (h : c.next = (some span, moved)) : c.Takes [span] moved := .step h (.refl moved)

theorem trans (h : c.Takes spans later) (hl : later.Takes more last) :
    c.Takes (spans ++ more) last := by
  induction h with
  | refl c => exact hl
  | step h _ ih => exact .step h (ih hl)

theorem remaining_eq (h : c.Takes spans later) : c.remaining = spans ++ later.remaining := by
  induction h with
  | refl c => rfl
  | step h _ ih => rw [remaining_of_some h, ih, List.cons_append]

theorem tags_eq (h : c.Takes spans later) : later.tags = c.tags := by
  induction h with
  | refl c => rfl
  | step h _ ih => rw [ih, tags_of_next h]

theorem position_eq (h : c.Takes spans later) :
    later.position = (spans.getLast?.map (·.stop)).getD c.position := by
  induction h with
  | refl c => rfl
  | @step c moved later span spans h _ ih =>
    rw [ih, position_of_next h]
    cases hlast : spans.getLast? with
    | none => simp [List.getLast?_eq_none_iff.1 hlast]
    | some last => simp [List.getLast?_cons, hlast]

end Takes

theorem At.of_takes (hc : c.At text.toList) (h : c.Takes spans later) : later.At text.toList := by
  induction h with
  | refl c => exact hc
  | step h _ ih => exact ih (hc.of_next h)

theorem Run.takes (h : c.Run spans later) : c.Takes spans later ∧ later.remaining = [] := by
  induction h with
  | stop h =>
    obtain ⟨-, rfl⟩ := next_eq_none_iff.1 h
    exact ⟨.refl _, remaining_of_none h⟩
  | step h _ ih => exact ⟨.step h ih.1, ih.2⟩

theorem takes_take (c : Cursor) (n : Nat) : c.Takes (c.take n).1 (c.take n).2 := by
  induction n generalizing c with
  | zero => exact .refl c
  | succ n ih =>
    rcases c.next_cases with h | ⟨span, moved, h⟩
    · simpa [take, h] using Takes.refl c
    · simpa [take, h] using Takes.step h (ih moved)

theorem take_fst (c : Cursor) (n : Nat) : (c.take n).1 = c.remaining.take n := by
  induction n generalizing c with
  | zero => rfl
  | succ n ih =>
    rcases c.next_cases with h | ⟨span, moved, h⟩
    · simp [take, h, remaining_of_none h]
    · simp [take, h, remaining_of_some h, ih]

theorem remaining_take (c : Cursor) (n : Nat) : (c.take n).2.remaining = c.remaining.drop n := by
  have h := (c.takes_take n).remaining_eq
  rw [take_fst] at h
  nth_rewrite 1 [← List.take_append_drop n c.remaining] at h
  exact (List.append_cancel_left h).symm

/-- The `n` tags that are passed over are used up like the one that is handed out. -/
theorem nth_eq (c : Cursor) (n : Nat) :
    c.nth n = (c.remaining[n]?, (c.take (n + 1)).2) := by
  induction n generalizing c with
  | zero =>
    rcases c.next_cases with h | ⟨span, moved, h⟩
    · simp [nth, take, h, remaining_of_none h]
    · simp [nth, take, h, remaining_of_some h]
  | succ n ih =>
    rcases c.next_cases with h | ⟨span, moved, h⟩
    · simp [nth, take, h, remaining_of_none h]
    · rw [nth, take]
      simp only [h, remaining_of_some h, List.getElem?_cons_succ, ih]

theorem nth_of_none (h : c.next = (none, c)) (n : Nat) : c.nth n = (none, c) := by
  cases n <;> simp [nth, h]

theorem At.isBoundary (h : c.At text.toList) : Text.IsBoundary text.toList c.position := by
  obtain ⟨before, htext, hp⟩ := h
  exact ⟨before, c.rest, htext, hp⟩

/-- What is handed out next is what a search of the whole text from the position finds. -/
theorem At.findNext_eq (h : c.At text.toList) :
    findNext text c.position c.tags = .ok c.next.1 := by
  obtain ⟨before, htext, hp⟩ := h
  have hdrop : Text.dropBytes? text.toList c.position = some c.rest := by
    rw [htext, hp, Text.dropBytes?_append]
  simp only [findNext, hdrop, next]
  cases c.tags.find? c.rest <;> rfl

theorem of_start_eq_ok {offset : Nat} {tags : TagSet} (h : Cursor.start text offset tags = .ok c) :
    c.At text.toList ∧ c.tags = tags ∧ c.position = offset := by
  unfold Cursor.start at h
  split at h
  · cases h
  · next rest hdrop =>
    cases h
    obtain ⟨before, htext, hoffset⟩ := Text.dropBytes?_eq_some_iff.1 hdrop
    exact ⟨⟨before, htext, hoffset⟩, rfl, rfl⟩

end

end Cursor

/-- An iteration that searches the whole text from its position on and remembers that it has found
nothing more. It would end at a position that is refused, too. -/
structure Scan where
  text : String
  tags : TagSet
  position : Nat
  done : Bool

def Scan.next (s : Scan) : Option Span × Scan :=
  if s.done then (none, s)
  else
    match findNext s.text s.position s.tags with
    | .ok (some span) => (some span, { s with position := span.stop })
    | .ok none => (none, { s with done := true })
    | .error _ => (none, { s with done := true })

/-- A cursor in use: where it was started last, which tags it has handed out or passed over since
then, and whether it has run out since then. -/
structure Session where
  start : Nat
  cursor : Cursor
  used : List Span
  hasRunOut : Bool

namespace Session

inductive Move where
  | next
  | nth (n : Nat)
  | rest
  | restart (offset : Nat)

def opened (offset : Nat) (cursor : Cursor) : Session := ⟨offset, cursor, [], false⟩

/-- One operation. A restart at an offset that is refused changes nothing. -/
def move (text : String) (s : Session) : Move → Session
  | .next =>
    { s with
      cursor := s.cursor.next.2
      used := s.used ++ s.cursor.next.1.toList
      hasRunOut := s.hasRunOut || s.cursor.next.1.isNone }
  | .nth n =>
    { s with
      cursor := (s.cursor.nth n).2
      used := s.used ++ (s.cursor.take (n + 1)).1
      hasRunOut := s.hasRunOut || (s.cursor.nth n).1.isNone }
  | .rest =>
    { s with
      cursor := s.cursor.drain.2
      used := s.used ++ s.cursor.drain.1
      hasRunOut := true }
  | .restart offset =>
    match Cursor.start text offset s.cursor.tags with
    | .ok cursor => opened offset cursor
    | .error _ => s

inductive Action where
  | move (which : Nat) (move : Move)
  /-- Goes on with a copy as a session of its own. -/
  | copy (which : Nat)

def act (text : String) (sessions : List Session) : Action → List Session
  | .move which move => sessions.modify which fun s => s.move text move
  | .copy which => sessions ++ sessions[which]?.toList

def run (text : String) (sessions : List Session) (actions : List Action) : List Session :=
  actions.foldl (act text) sessions

/-- The action is no operation on this session. -/
def Action.Spares (which : Nat) : Action → Prop
  | .move other _ => other ≠ which
  | .copy _ => True

def scan (text : String) (s : Session) : Scan :=
  ⟨text, s.cursor.tags, s.cursor.position, s.hasRunOut⟩

/-- The session goes through all tags from its start on: it has used up the first of them, the others
are left, and so it goes on as a list of them would. -/
structure Replays (s : Session) (text : String) (tags : TagSet) : Prop where
  all : findAll text s.start tags = .ok (s.used ++ s.cursor.remaining)
  next : s.cursor.next.1 = s.cursor.remaining.head?
  nth : ∀ n, (s.cursor.nth n).1 = s.cursor.remaining[n]?
  position : s.cursor.position = (s.used.getLast?.map (·.stop)).getD s.start
  boundary : Text.IsBoundary text.toList s.cursor.position
  search : findNext text s.cursor.position tags = .ok s.cursor.next.1
  scan : (s.scan text).next = (s.cursor.next.1, (s.move text .next).scan text)
  stopped : s.hasRunOut = true →
    s.cursor.next = (none, s.cursor) ∧ ∀ n, s.cursor.nth n = (none, s.cursor)

/-- The cursor is what the started one has become by handing out the tags used up, and a session that
has run out has no tags left. -/
structure Sound (s : Session) (text : String) (tags : TagSet) : Prop where
  origin : ∃ first, Cursor.start text s.start tags = .ok first ∧ first.Takes s.used s.cursor
  stopped : s.hasRunOut = true → s.cursor.remaining = []

section
variable {text : String} {tags : TagSet} {s : Session} {sessions : List Session}

theorem Sound.opened {offset : Nat} {cursor : Cursor}
    (h : Cursor.start text offset tags = .ok cursor) : (opened offset cursor).Sound text tags where
  origin := ⟨cursor, h, .refl cursor⟩
  stopped := nofun

theorem Sound.tags_eq (h : s.Sound text tags) : s.cursor.tags = tags := by
  obtain ⟨first, hstart, htakes⟩ := h.origin
  rw [htakes.tags_eq, (Cursor.of_start_eq_ok hstart).2.1]

theorem Sound.at (h : s.Sound text tags) : s.cursor.At text.toList := by
  obtain ⟨first, hstart, htakes⟩ := h.origin
  exact (Cursor.of_start_eq_ok hstart).1.of_takes htakes

/-- An operation that hands out or passes over tags on its way. -/
theorem Sound.advance (h : s.Sound text tags) {spans : List Span} {later : Cursor} {ended : Bool}
    (htakes : s.cursor.Takes spans later) (hended : ended = true → later.remaining = []) :
    ({ s with
        cursor := later
        used := s.used ++ spans
        hasRunOut := s.hasRunOut || ended } : Session).Sound text tags where
  origin := by
    obtain ⟨first, hstart, hfirst⟩ := h.origin
    exact ⟨first, hstart, hfirst.trans htakes⟩
  stopped hout := by
    rcases Bool.or_eq_true_iff.1 hout with hout | hout
    · have hnil := h.stopped hout
      rw [htakes.remaining_eq] at hnil
      exact (List.append_eq_nil_iff.1 hnil).2
    · exact hended hout

theorem Sound.move (h : s.Sound text tags) (move : Move) : (s.move text move).Sound text tags := by
  cases move with
  | next =>
    rcases s.cursor.next_cases with hn | ⟨span, moved, hn⟩
    · have hnil := Cursor.remaining_of_none hn
      simpa [Session.move, hn] using h.advance (.refl s.cursor) fun (_ : true = true) => hnil
    · simpa [Session.move, hn] using h.advance (.of_next hn) fun (hf : false = true) => nomatch hf
  | nth n =>
    rw [Session.move, s.cursor.nth_eq]
    refine h.advance (s.cursor.takes_take (n + 1)) fun hnone => ?_
    rw [Cursor.remaining_take]
    have hle : s.cursor.remaining.length ≤ n := by simpa using hnone
    exact List.drop_eq_nil_of_le (by omega)
  | rest =>
    obtain ⟨htakes, hnil⟩ := s.cursor.run_drain.takes
    simpa [Session.move] using h.advance htakes fun (_ : true = true) => hnil
  | restart offset =>
    rw [Session.move, h.tags_eq]
    cases hstart : Cursor.start text offset tags with
    | ok cursor => exact Sound.opened hstart
    | error e => exact h

theorem Sound.act (h : ∀ s ∈ sessions, s.Sound text tags) (action : Action) :
    ∀ s ∈ Session.act text sessions action, s.Sound text tags := by
  cases action with
  | move which move =>
    intro s hs
    obtain ⟨i, hi⟩ := List.mem_iff_getElem?.1 hs
    rw [Session.act, List.getElem?_modify] at hi
    obtain ⟨before, hbefore, rfl⟩ := Option.map_eq_some_iff.1 hi
    have hsound := h before (List.mem_of_getElem? hbefore)
    split
    · exact hsound.move move
    · exact hsound
  | copy which =>
    refine List.forall_mem_append.2 ⟨h, fun s hs => ?_⟩
    exact h s (List.mem_of_getElem? (Option.mem_toList.1 hs))

theorem Sound.run (actions : List Action) (h : ∀ s ∈ sessions, s.Sound text tags) :
    ∀ s ∈ Session.run text sessions actions, s.Sound text tags := by
  induction actions generalizing sessions with
  | nil => exact h
  | cons action actions ih => exact ih (Sound.act h action)

theorem Sound.replays (h : s.Sound text tags) : s.Replays text tags where
  all := by
    obtain ⟨first, hstart, htakes⟩ := h.origin
    rw [findAll, hstart, ← htakes.remaining_eq]
    rfl
  next := s.cursor.next_fst
  nth n := by rw [s.cursor.nth_eq]
  position := by
    obtain ⟨first, hstart, htakes⟩ := h.origin
    rw [htakes.position_eq, (Cursor.of_start_eq_ok hstart).2.2]
  boundary := h.at.isBoundary
  search := h.tags_eq ▸ h.at.findNext_eq
  scan := by
    unfold Session.scan Scan.next
    cases hout : s.hasRunOut with
    | true =>
      have hnone := Cursor.next_of_remaining_eq_nil (h.stopped hout)
      simp [Session.move, hnone, hout]
    | false =>
      rw [h.at.findNext_eq]
      rcases s.cursor.next_cases with hn | ⟨span, moved, hn⟩
      · simp [Session.move, hn, hout]
      · simp [Session.move, hn, hout, Cursor.tags_of_next hn, Cursor.position_of_next hn]
  stopped hout := by
    have hnone := Cursor.next_of_remaining_eq_nil (h.stopped hout)
    exact ⟨hnone, Cursor.nth_of_none hnone⟩

theorem act_spares {which : Nat} {action : Action} (h : action.Spares which)
    (hs : sessions[which]? = some s) : (act text sessions action)[which]? = some s := by
  cases action with
  | move other move =>
    have hne : other ≠ which := h
    simpa [act, List.getElem?_modify, hne] using hs
  | copy other =>
    obtain ⟨hlt, -⟩ := List.getElem?_eq_some_iff.1 hs
    rw [act, List.getElem?_append_left hlt, hs]

theorem run_spares {which : Nat} (actions : List Action)
    (h : ∀ action ∈ actions, action.Spares which)
    (hs : sessions[which]? = some s) : (run text sessions actions)[which]? = some s := by
  induction actions generalizing sessions with
  | nil => exact hs
  | cons action actions ih =>
    obtain ⟨haction, hactions⟩ := List.forall_mem_cons.1 h
    exact ih hactions (act_spares haction hs)

theorem copy_last {which : Nat} (hs : sessions[which]? = some s) :
    (act text sessions (.copy which))[sessions.length]? = some s := by
  simp [act, hs]

end

theorem run_replays (text : String) (tags : TagSet) (offset : Nat)
    (h : Text.IsBoundary text.toList offset) (actions : List Action) :
    ∃ cursor, Cursor.start text offset tags = .ok cursor ∧
      ∃ sessions, run text [opened offset cursor] actions = sessions ∧
        (∀ s ∈ sessions, s.Replays text tags) ∧
        ∀ which s, sessions[which]? = some s →
          (act text sessions (.copy which))[sessions.length]? = some s ∧
          ∀ later, (∀ action ∈ later, action.Spares which) →
            (run text sessions later)[which]? = some s := by
  obtain ⟨cursor, hstart, -⟩ := Cursor.start_eq_ok tags h
  refine ⟨cursor, hstart, _, rfl, fun s hs => ?_, fun which s hs => ?_⟩
  · have hopened : ∀ s ∈ [opened offset cursor], s.Sound text tags :=
      List.forall_mem_singleton.2 (Sound.opened hstart)
    exact (Sound.run actions hopened s hs).replays
  · exact ⟨copy_last hs, fun later hlater => run_spares later hlater hs⟩

def copiedAndRestarted : List Action :=
  [.copy 0, .move 1 .rest, .move 0 (.nth 1), .move 1 (.restart 4), .move 0 (.nth 3), .move 1 .next]

theorem run_replays_of_copy :
    Text.IsBoundary "é@x @x @x".toList 2 ∧
      ∃ cursor, Cursor.start "é@x @x @x" 2 (.ofTokens ["@x"] .wordEnd) = .ok cursor ∧
        ∃ sessions, run "é@x @x @x" [opened 2 cursor] copiedAndRestarted = sessions ∧
          (∀ s ∈ sessions, s.Replays "é@x @x @x" (.ofTokens ["@x"] .wordEnd)) ∧
          ∀ which s, sessions[which]? = some s →
            (act "é@x @x @x" sessions (.copy which))[sessions.length]? = some s ∧
            ∀ later, (∀ action ∈ later, action.Spares which) →
              (run "é@x @x @x" sessions later)[which]? = some s :=
  have h : Text.IsBoundary "é@x @x @x".toList 2 :=
    ⟨['é'], ['@', 'x', ' ', '@', 'x', ' ', '@', 'x'], rfl, rfl⟩
  ⟨h, run_replays "é@x @x @x" (.ofTokens ["@x"] .wordEnd) 2 h copiedAndRestarted⟩

end Session

end DocstringTags
