import DocstringTags.Proofs.Tags.Session
import DocstringTags.Proofs.Text.Utf8
import Mathlib.Data.List.Infix

/-! The search as it goes over the bytes of a text. It cuts the text at byte offsets, and a cut that
is not at a character boundary leaves the search without a result. Main statements:
`Boundary.turn?_isSound` for one turn of the search for a token and `Boundary.seek?_isFirst` for all of
them, and from these `TagSet.nextIn?_eq_findNext`, by which the search over bytes and the one over
characters give the same spans.
-/

set_option autoImplicit false

namespace DocstringTags

namespace Text

/-- The bytes from an offset on, where the text can be cut there. -/
def bytesFrom? (bytes : List UInt8) (offset : Nat) : Option (List UInt8) :=
  if IsByteBoundary bytes offset then some (bytes.drop offset) else none

def firstPlace? (part bytes : List UInt8) : Option Nat := bytes.tails.findIdx? part.isPrefixOf

section
variable {part bytes : List UInt8} {cs : List Char} {offset n : Nat}

theorem bytesFrom?_utf8 (h : IsBoundary cs offset) :
    bytesFrom? (utf8 cs) offset = some ((utf8 cs).drop offset) :=
  if_pos (isBoundary_iff_isByteBoundary.1 h)

theorem bytesFrom?_utf8_append (before after : List Char) :
    bytesFrom? (utf8 (before ++ after)) (byteSize before) = some (utf8 after) := by
  rw [bytesFrom?_utf8 (isBoundary_append before after), drop_utf8_append]

theorem le_of_bytesFrom?_eq_some {rest : List UInt8} (h : bytesFrom? bytes offset = some rest) :
    offset ≤ bytes.length := by
  unfold bytesFrom? at h
  split at h
  · next hb =>
    rcases hb with rfl | rfl | ⟨b, hb, -⟩
    · exact Nat.zero_le _
    · exact Nat.le_refl _
    · exact Nat.le_of_lt (List.getElem?_eq_some_iff.1 hb).1
  · cases h

theorem firstPlace?_some (h : firstPlace? part bytes = some n) :
    part <+: bytes.drop n ∧ ∀ m < n, ¬part <+: bytes.drop m := by
  obtain ⟨hn, hat, hbefore⟩ := List.findIdx?_eq_some_iff_getElem.1 h
  rw [List.getElem_tails, List.isPrefixOf_iff_prefix] at hat
  refine ⟨hat, fun m hm => ?_⟩
  have := hbefore m hm
  rwa [List.getElem_tails, List.isPrefixOf_iff_prefix] at this

theorem firstPlace?_none (h : firstPlace? part bytes = none) (n : Nat) :
    ¬part <+: bytes.drop n := by
  rw [← List.isPrefixOf_iff_prefix, Bool.not_eq_true]
  exact List.findIdx?_eq_none_iff.1 h _ ((List.mem_tails _ _).2 (List.drop_suffix n bytes))

end

end Text

inductive Turn where
  | absent
  | found (start : Nat)
  | again (position : Nat)
  deriving DecidableEq, Repr

/-- Looks for the token from a position on. Where it stands and is not allowed to, the next turn
begins behind the first character of that place. -/
def Boundary.turn? (boundary : Boundary) (text token : List UInt8) (position : Nat) :
    Option Turn := do
  let rest ← Text.bytesFrom? text position
  match Text.firstPlace? token rest with
  | none => some .absent
  | some skipped =>
    let start := position + skipped
    match boundary with
    | .any => some (.found start)
    | .wordEnd =>
      let after ← Text.bytesFrom? text (start + token.length)
      if (Text.firstChar? after).any Text.isAlphanumeric then
        let here ← Text.bytesFrom? text start
        some (.again (start + ((Text.firstChar? here).elim 1 Char.utf8Size)))
      else some (.found start)

theorem Boundary.turn?_again {boundary : Boundary} {text token : List UInt8} {position next : Nat}
    (h : boundary.turn? text token position = some (.again next)) :
    position < next ∧ position ≤ text.length := by
  obtain ⟨rest, hrest, h⟩ := Option.bind_eq_some_iff.1 h
  refine ⟨?_, Text.le_of_bytesFrom?_eq_some hrest⟩
  split at h
  · cases h
  · next skipped _ =>
    cases boundary with
    | any => cases h
    | wordEnd =>
      obtain ⟨after, -, h⟩ := Option.bind_eq_some_iff.1 h
      split at h
      · obtain ⟨here, -, h⟩ := Option.bind_eq_some_iff.1 h
        obtain rfl := Turn.again.inj (Option.some.inj h)
        cases Text.firstChar? here with
        | none => simp only [Option.elim_none]; omega
        | some c => have := c.utf8Size_pos; simp only [Option.elim_some]; omega
      · cases h

/-- The first place at or after a position where the token stands and is allowed to. The turns end,
since each begins further right than the one before. -/
def Boundary.seek? (boundary : Boundary) (text token : List UInt8) (position : Nat) :
    Option (Option Nat) :=
  match _h : boundary.turn? text token position with
  | none => none
  | some .absent => some none
  | some (.found start) => some (some start)
  | some (.again next) => boundary.seek? text token next
termination_by text.length + 1 - position
decreasing_by
  have := turn?_again _h
  omega

namespace Boundary

def IsFirst (boundary : Boundary) (token text : List Char) (offset : Nat) : Option Nat → Prop
  | none => ∀ start, offset ≤ start → ¬boundary.Accepts token text start
  | some start => offset ≤ start ∧ boundary.Accepts token text start ∧
      ∀ earlier, offset ≤ earlier → earlier < start → ¬boundary.Accepts token text earlier

end Boundary

/-- A turn passes over no place where the token is accepted. The next one begins further right, one
character behind a place where the token stands. -/
def Turn.IsSound (boundary : Boundary) (token text : List Char) (position : Nat) : Turn → Prop
  | .absent => boundary.IsFirst token text position none
  | .found start => boundary.IsFirst token text position (some start)
  | .again next => position < next ∧ Text.IsBoundary text next ∧
      (∃ start c, position ≤ start ∧ Boundary.any.Accepts token text start ∧
        Text.slice? text start next = some [c]) ∧
      ∀ earlier, position ≤ earlier → earlier < next → ¬boundary.Accepts token text earlier

namespace Boundary

section
variable {boundary : Boundary} {token text before after : List Char} {position start offset : Nat}
  {answer other : Option Nat}

theorem accepts_any_iff (hne : token ≠ []) :
    Boundary.any.Accepts token text start ↔ Text.utf8 token <+: (Text.utf8 text).drop start := by
  rw [Text.utf8_isPrefix_drop_iff hne]
  simp [Accepts, Allows]

theorem Accepts.any (h : boundary.Accepts token text start) :
    Boundary.any.Accepts token text start := by
  obtain ⟨before, after, htext, hstart, -⟩ := h
  exact ⟨before, after, htext, hstart, nofun⟩

theorem Accepts.isBoundary (h : boundary.Accepts token text start) :
    Text.IsBoundary text start ∧ Text.IsBoundary text (start + Text.byteSize token) := by
  obtain ⟨before, after, rfl, rfl, -⟩ := h
  refine ⟨Text.isBoundary_append _ _, ?_⟩
  rw [← Text.byteSize_append, ← List.append_assoc]
  exact Text.isBoundary_append _ _

theorem isFirst_any_firstPlace? (hne : token ≠ []) (text : List Char) (position : Nat) :
    Boundary.any.IsFirst token text position
      ((Text.firstPlace? (Text.utf8 token) ((Text.utf8 text).drop position)).map
        (position + ·)) := by
  cases hfirst : Text.firstPlace? (Text.utf8 token) ((Text.utf8 text).drop position) with
  | none =>
    intro start hle ha
    obtain ⟨n, rfl⟩ := Nat.exists_eq_add_of_le hle
    rw [accepts_any_iff hne, ← List.drop_drop] at ha
    exact Text.firstPlace?_none hfirst n ha
  | some skipped =>
    obtain ⟨hat, hbefore⟩ := Text.firstPlace?_some hfirst
    refine ⟨Nat.le_add_right _ _, ?_, fun earlier hle hlt ha => ?_⟩
    · rwa [accepts_any_iff hne, ← List.drop_drop]
    · obtain ⟨n, rfl⟩ := Nat.exists_eq_add_of_le hle
      rw [accepts_any_iff hne, ← List.drop_drop] at ha
      exact hbefore n (Nat.add_lt_add_iff_left.1 hlt) ha

/-- A place that is refused is left by its first character: a byte inside of that begins nothing. -/
theorem not_accepts_of_refused {c : Char} {tail : List Char}
    (hrefused : ¬boundary.Allows after) (hlt : start < Text.byteSize before + c.utf8Size)
    (hle : Text.byteSize before ≤ start) :
    ¬boundary.Accepts (c :: tail) (before ++ (c :: tail ++ after)) start := by
  obtain ⟨n, rfl⟩ := Nat.exists_eq_add_of_le hle
  rw [accepts_append, List.cons_append, accepts_cons_iff]
  intro h
  rcases h with ⟨-, rest, h⟩ | ⟨m, hm, -⟩
  · obtain ⟨hrest, hadmits⟩ := afterToken?_eq_some_iff.1 h
    obtain rfl : after = rest := (List.append_right_inj (c :: tail)).1 hrest
    exact hrefused (admits_eq_true_iff.1 hadmits)
  · omega

theorem isSound_again {c : Char} {tail : List Char}
    (hsplit : text = before ++ (c :: tail ++ after)) (hle : position ≤ Text.byteSize before)
    (hrefused : ¬boundary.Allows after)
    (hbefore : ∀ start, position ≤ start → start < Text.byteSize before →
      ¬Boundary.any.Accepts (c :: tail) text start) :
    (Turn.again (Text.byteSize before + c.utf8Size)).IsSound boundary (c :: tail) text position := by
  have hpos := c.utf8Size_pos
  refine ⟨by omega, ⟨before ++ [c], tail ++ after, by simp [hsplit], by simp⟩,
    ⟨Text.byteSize before, c, hle, ⟨before, after, hsplit, rfl, nofun⟩, ?_⟩,
    fun start hge hlt ha => ?_⟩
  · exact Text.slice?_eq_some_iff.2 ⟨before, tail ++ after, by simp [hsplit], rfl, by simp⟩
  · by_cases hstart : start < Text.byteSize before
    · exact hbefore start hge hstart ha.any
    · exact not_accepts_of_refused hrefused hlt (Nat.le_of_not_lt hstart) (hsplit ▸ ha)

/-- What a turn does with the place that it has found. -/
theorem turn?_wordEnd {c : Char} {tail : List Char} {skipped : Nat}
    (hsplit : text = before ++ (c :: tail ++ after)) (h : Text.IsBoundary text position)
    (hfirst : Text.firstPlace? (Text.utf8 (c :: tail)) ((Text.utf8 text).drop position) =
      some skipped) (hstart : position + skipped = Text.byteSize before) :
    Boundary.wordEnd.turn? (Text.utf8 text) (Text.utf8 (c :: tail)) position =
      some (if Boundary.wordEnd.admits after then .found (Text.byteSize before)
        else .again (Text.byteSize before + c.utf8Size)) := by
  -- the token begins and ends at a boundary, so neither of the other two cuts is refused
  have hafter : Text.bytesFrom? (Text.utf8 text)
      (Text.byteSize before + Text.byteSize (c :: tail)) = some (Text.utf8 after) := by
    rw [hsplit, ← List.append_assoc, ← Text.byteSize_append, Text.bytesFrom?_utf8_append]
  have hhere : Text.bytesFrom? (Text.utf8 text) (Text.byteSize before) =
      some (Text.utf8 (c :: tail ++ after)) := by
    rw [hsplit, Text.bytesFrom?_utf8_append]
  simp only [turn?, Text.bytesFrom?_utf8 h, Option.bind_eq_bind, Option.bind_some, hfirst, hstart,
    Text.length_utf8, hafter, hhere, Text.firstChar?_utf8]
  cases after with
  | nil => simp [admits]
  | cons d after => cases hd : Text.isAlphanumeric d <;> simp [admits, hd]

theorem turn?_isSound (boundary : Boundary) (hne : token ≠ []) (h : Text.IsBoundary text position) :
    ∃ turn, boundary.turn? (Text.utf8 text) (Text.utf8 token) position = some turn ∧
      turn.IsSound boundary token text position := by
  have hany := isFirst_any_firstPlace? hne text position
  cases hfirst : Text.firstPlace? (Text.utf8 token) ((Text.utf8 text).drop position) with
  | none =>
    rw [hfirst] at hany
    refine ⟨.absent, ?_, fun start hle ha => hany start hle ha.any⟩
    simp [turn?, Text.bytesFrom?_utf8 h, hfirst]
  | some skipped =>
    rw [hfirst] at hany
    cases boundary with
    | any =>
      refine ⟨.found (position + skipped), ?_, hany⟩
      simp [turn?, Text.bytesFrom?_utf8 h, hfirst]
    | wordEnd =>
      obtain ⟨hle, hat, hbefore⟩ := hany
      obtain ⟨before, after, hsplit, hstart, -⟩ := hat
      obtain ⟨c, tail, rfl⟩ := List.exists_cons_of_ne_nil hne
      refine ⟨_, turn?_wordEnd hsplit h hfirst hstart, ?_⟩
      rw [hstart] at hle hbefore
      cases hallows : Boundary.wordEnd.admits after with
      | true =>
        exact ⟨hle, ⟨before, after, hsplit, rfl, admits_eq_true_iff.1 hallows⟩,
          fun earlier hge hlt ha => hbefore earlier hge hlt ha.any⟩
      | false =>
        have hrefused : ¬Boundary.wordEnd.Allows after := by simp [← admits_eq_true_iff, hallows]
        exact isSound_again hsplit hle hrefused hbefore

theorem isSound_of_turn? {turn : Turn} (hne : token ≠ []) (h : Text.IsBoundary text position)
    (hturn : boundary.turn? (Text.utf8 text) (Text.utf8 token) position = some turn) :
    turn.IsSound boundary token text position := by
  obtain ⟨found, hfound, hsound⟩ := turn?_isSound boundary hne h
  exact Option.some.inj (hfound.symm.trans hturn) ▸ hsound

theorem IsFirst.of_later {later : Nat} (h : boundary.IsFirst token text later answer)
    (hle : offset ≤ later)
    (hbefore : ∀ start, offset ≤ start → start < later → ¬boundary.Accepts token text start) :
    boundary.IsFirst token text offset answer := by
  cases answer with
  | none =>
    intro start hge
    by_cases hlt : start < later
    · exact hbefore start hge hlt
    · exact h start (Nat.le_of_not_lt hlt)
  | some found =>
    obtain ⟨hfound, ha, hearlier⟩ := h
    refine ⟨Nat.le_trans hle hfound, ha, fun start hge hstart => ?_⟩
    by_cases hlt : start < later
    · exact hbefore start hge hlt
    · exact hearlier start (Nat.le_of_not_lt hlt) hstart

theorem IsFirst.unique (h : boundary.IsFirst token text offset answer)
    (ho : boundary.IsFirst token text offset other) : answer = other := by
  cases answer with
  | none =>
    cases other with
    | none => rfl
    | some start => exact absurd ho.2.1 (h start ho.1)
  | some start =>
    cases other with
    | none => exact absurd h.2.1 (ho start h.1)
    | some start' =>
      obtain ⟨hle, ha, hbefore⟩ := h
      obtain ⟨hle', ha', hbefore'⟩ := ho
      rcases Nat.lt_trichotomy start start' with hlt | heq | hlt
      · exact absurd ha (hbefore' start hle hlt)
      · rw [heq]
      · exact absurd ha' (hbefore start' hle' hlt)

theorem find?_isFirst (boundary : Boundary) (token before rest : List Char) :
    boundary.IsFirst token (before ++ rest) (Text.byteSize before)
      ((boundary.find? token rest).map (Text.byteSize before + ·.skipped)) := by
  cases hfound : boundary.find? token rest with
  | none =>
    intro start hle
    obtain ⟨n, rfl⟩ := Nat.exists_eq_add_of_le hle
    rw [accepts_append]
    exact find?_eq_none_iff.1 hfound n
  | some hit =>
    refine ⟨Nat.le_add_right _ _, (accepts_append before).2 (find?_accepts hfound), ?_⟩
    intro start hle hlt
    obtain ⟨n, rfl⟩ := Nat.exists_eq_add_of_le hle
    rw [accepts_append]
    exact find?_leftmost hfound (Nat.add_lt_add_iff_left.1 hlt)

/-- The search over bytes has a result: the first place where the token is accepted. -/
theorem seek?_isFirst (boundary : Boundary) (hne : token ≠ [])
    (h : Text.IsBoundary text position) :
    ∃ answer, boundary.seek? (Text.utf8 text) (Text.utf8 token) position = some answer ∧
      boundary.IsFirst token text position answer := by
  fun_induction boundary.seek? (Text.utf8 text) (Text.utf8 token) position with
  | case1 position hturn =>
    obtain ⟨turn, ht, -⟩ := turn?_isSound boundary hne h
    simp [hturn] at ht
  | case2 position hturn => exact ⟨none, rfl, isSound_of_turn? hne h hturn⟩
  | case3 position start hturn => exact ⟨some start, rfl, isSound_of_turn? hne h hturn⟩
  | case4 position next hturn ih =>
    -- the next position is a boundary again, and that is all a turn asks for
    obtain ⟨hlt, hnext, -, hbefore⟩ := isSound_of_turn? hne h hturn
    obtain ⟨answer, hanswer, hfirst⟩ := ih hnext
    exact ⟨answer, hanswer, hfirst.of_later (Nat.le_of_lt hlt) hbefore⟩

theorem seek?_eq_find? (hne : token ≠ []) (before rest : List Char) :
    boundary.seek? (Text.utf8 (before ++ rest)) (Text.utf8 token) (Text.byteSize before) =
      some ((boundary.find? token rest).map (Text.byteSize before + ·.skipped)) := by
  obtain ⟨answer, hanswer, hfirst⟩ :=
    seek?_isFirst boundary hne (Text.isBoundary_append before rest)
  rw [hanswer, hfirst.unique (find?_isFirst boundary token before rest)]

end

end Boundary

def Hit.span (offset : Nat) (hit : Hit) : Span := Span.ofSize (offset + hit.skipped) hit.size

def Span.leftmost (best : Option Span) (span : Span) : Option Span :=
  if best.any (·.start ≤ span.start) then best else some span

theorem Span.leftmost_span (best : Option Hit) (hit : Hit) (offset : Nat) :
    Span.leftmost (best.map (Hit.span offset)) (hit.span offset) =
      (Hit.leftmost best (some hit)).map (Hit.span offset) := by
  cases best with
  | none => rfl
  | some found =>
    by_cases hlt : hit.skipped < found.skipped
    · simp [Span.leftmost, Hit.leftmost, Hit.span, Span.ofSize, hlt]
    · simp [Span.leftmost, Hit.leftmost, Hit.span, Span.ofSize, hlt, Nat.le_of_not_lt hlt]

/-- The best span of some tokens, given the best one of those before them. A span at the offset ends
the search. -/
def Boundary.seekBest? (boundary : Boundary) (text : List UInt8) (offset : Nat) :
    Option Span → List String → Option (Option Span)
  | best, [] => some best
  | best, token :: tokens =>
    match boundary.seek? text (Text.utf8 token.toList) offset with
    | none => none
    | some none => boundary.seekBest? text offset best tokens
    | some (some start) =>
      let better := Span.leftmost best (Span.ofSize start (Text.utf8 token.toList).length)
      if start = offset then some better else boundary.seekBest? text offset better tokens

theorem Boundary.seekBest?_eq_findBest (boundary : Boundary) (best : Option Hit)
    {tokens : List String} (hne : ∀ token ∈ tokens, token ≠ "") (before rest : List Char) :
    boundary.seekBest? (Text.utf8 (before ++ rest)) (Text.byteSize before)
        (best.map (Hit.span (Text.byteSize before))) tokens =
      some ((boundary.findBest rest best tokens).map (Hit.span (Text.byteSize before))) := by
  induction tokens generalizing best with
  | nil => rfl
  | cons token tokens ih =>
    obtain ⟨htoken, htokens⟩ := List.forall_mem_cons.1 hne
    rw [seekBest?, findBest, seek?_eq_find? (by simpa using htoken)]
    cases hfound : boundary.find? token.toList rest with
    | none => exact ih best htokens
    | some hit =>
      have hspan : Span.ofSize (Text.byteSize before + hit.skipped)
          (Text.utf8 token.toList).length = hit.span (Text.byteSize before) := by
        rw [Text.length_utf8, ← (find?_some hfound).1, Hit.span]
      simp only [Option.map_some, hspan, Span.leftmost_span]
      by_cases hhead : hit.skipped = 0
      · simp [hhead]
      · simpa [hhead] using ih _ htokens

namespace TagSet

def nextIn? (tags : TagSet) (text : List UInt8) (offset : Nat) :
    Option (Except OffsetError (Option Span)) :=
  if Text.IsByteBoundary text offset then
    (tags.boundary.seekBest? text offset none tags.tokens).map .ok
  else some (.error (.invalid offset text.length))

/-- The tags that a run over the bytes hands out from an offset on. No search of the run refuses the
offset at which it begins. -/
inductive RunsIn (tags : TagSet) (text : List UInt8) : Nat → List Span → Prop where
  | stop {offset : Nat} (h : tags.nextIn? text offset = some (.ok none)) :
    RunsIn tags text offset []
  | step {offset : Nat} {span : Span} {spans : List Span}
    (h : tags.nextIn? text offset = some (.ok (some span)))
    (more : RunsIn tags text span.stop spans) : RunsIn tags text offset (span :: spans)

/-- The offset may be any. -/
theorem nextIn?_eq_findNext (tags : TagSet) (text : String) (offset : Nat) :
    tags.nextIn? (Text.utf8 text.toList) offset = some (findNext text offset tags) := by
  unfold nextIn? findNext
  cases hdrop : Text.dropBytes? text.toList offset with
  | none =>
    have hnot : ¬Text.IsByteBoundary (Text.utf8 text.toList) offset := by
      rw [← Text.isBoundary_iff_isByteBoundary, Text.isBoundary_iff_dropBytes?, hdrop]
      simp
    rw [if_neg hnot, Text.length_utf8]
  | some rest =>
    obtain ⟨before, htext, rfl⟩ := Text.dropBytes?_eq_some_iff.1 hdrop
    rw [htext, if_pos (Text.isBoundary_iff_isByteBoundary.1 (Text.isBoundary_append before rest))]
    have hbest := tags.boundary.seekBest?_eq_findBest none tags.nonempty before rest
    rw [Option.map_none] at hbest
    rw [hbest]
    rfl

theorem runsIn_of_run {c stopped : Cursor} {text : String} {spans : List Span}
    (hr : c.Run spans stopped) (hc : c.At text.toList) :
    c.tags.RunsIn (Text.utf8 text.toList) c.position spans := by
  induction hr with
  | stop h =>
    refine .stop ?_
    rw [nextIn?_eq_findNext, hc.findNext_eq, h]
  | step h _ ih =>
    have hmore := ih (hc.of_next h)
    rw [Cursor.tags_of_next h, Cursor.position_of_next h] at hmore
    refine .step ?_ hmore
    rw [nextIn?_eq_findNext, hc.findNext_eq, h]

end TagSet

/-- Nothing in the search over bytes can go wrong, and it finds what the search over characters
finds. -/
theorem search_on_bytes {text token : String} {offset : Nat} (tags : TagSet) (htoken : token ≠ "")
    (hoffset : Text.IsBoundary text.toList offset) :
    (∀ place, Text.utf8 token.toList <+: (Text.utf8 text.toList).drop place →
      Text.IsBoundary text.toList place ∧
        Text.IsBoundary text.toList (place + token.utf8ByteSize)) ∧
    (∀ boundary : Boundary, ∀ position, Text.IsBoundary text.toList position →
      ∃ turn, boundary.turn? (Text.utf8 text.toList) (Text.utf8 token.toList) position = some turn ∧
        turn.IsSound boundary token.toList text.toList position) ∧
    (∃ rest, Text.dropBytes? text.toList offset = some rest ∧ ∀ boundary : Boundary,
      boundary.seek? (Text.utf8 text.toList) (Text.utf8 token.toList) offset =
        some ((boundary.find? token.toList rest).map (offset + ·.skipped))) ∧
    tags.nextIn? (Text.utf8 text.toList) offset = some (findNext text offset tags) ∧
    ∃ spans, findAll text offset tags = .ok spans ∧
      tags.RunsIn (Text.utf8 text.toList) offset spans := by
  have hne : token.toList ≠ [] := by simpa using htoken
  obtain ⟨before, rest, htext, rfl⟩ := hoffset
  refine ⟨fun place h => ?_, fun boundary position h => boundary.turn?_isSound hne h, ?_,
    tags.nextIn?_eq_findNext text _, ?_⟩
  · rw [← Text.byteSize_toList]
    exact ((Boundary.accepts_any_iff hne).2 h).isBoundary
  · refine ⟨rest, ?_, fun boundary => ?_⟩
    · rw [htext, Text.dropBytes?_append]
    · rw [htext, Boundary.seek?_eq_find? hne]
  · have hb := Text.isBoundary_append before rest
    rw [← htext] at hb
    obtain ⟨c, hstart, hat, rfl, hp⟩ := Cursor.start_eq_ok tags hb
    refine ⟨c.remaining, by rw [findAll, hstart]; rfl, ?_⟩
    rw [← hp]
    exact TagSet.runsIn_of_run c.run_drain hat

/-- The letters of the token take two bytes each, and a letter follows the first of the two places
where it stands. They overlap. -/
theorem search_on_bytes_of_overlap :
    "éé" ≠ "" ∧ Text.IsBoundary "xééé é".toList 1 ∧
      Boundary.wordEnd.turn? (Text.utf8 "xééé é".toList) (Text.utf8 "éé".toList) 1 =
        some (.again 3) ∧
      Boundary.wordEnd.seek? (Text.utf8 "xééé é".toList) (Text.utf8 "éé".toList) 1 =
        some (some 3) ∧
      TagSet.nextIn? (.ofTokens ["éé"] .wordEnd) (Text.utf8 "xééé é".toList) 1 =
        some (.ok (some ⟨3, 7⟩)) := by
  have htoken : "éé" ≠ "" := by decide
  have hoffset : Text.IsBoundary "xééé é".toList 1 := ⟨['x'], "ééé é".toList, rfl, rfl⟩
  obtain ⟨-, -, ⟨rest, hrest, hseek⟩, hnext, -⟩ :=
    search_on_bytes (.ofTokens ["éé"] .wordEnd) htoken hoffset
  obtain rfl : "ééé é".toList = rest := Option.some.inj hrest
  exact ⟨htoken, hoffset, by decide +kernel, (hseek .wordEnd).trans (by decide +kernel),
    hnext.trans (by decide +kernel)⟩

end DocstringTags
