import CommandBridge.Events.Decoder
import CommandBridge.Proofs.Text.Utf8

/-!
# What a decoder makes of a stream

How bytes are cut into chunks does not matter: a decoder that is fed two pieces is left as one
that is fed them at once, and gives the same events. A stream is therefore read line by line, and
each block of an event brings out that event and leaves the decoder as at its start.
-/

set_option autoImplicit false

namespace CommandBridge

namespace Text

variable {α : Type} [DecidableEq α] {separator : α}

theorem pieces_cons_of_ne {c : α} (other : c ≠ separator) (rest : List α) :
    pieces separator (c :: rest) =
      (c :: (pieces separator rest).headD []) :: (pieces separator rest).tail := by
  rw [pieces, if_neg other]
  cases parts : pieces separator rest with
  | nil => exact absurd parts (pieces_ne_nil separator rest)
  | cons piece more => rfl

theorem pieces_append (xs ys : List α) :
    pieces separator (xs ++ ys) = (pieces separator xs).dropLast ++
      pieces separator ((pieces separator xs).getLast?.getD [] ++ ys) := by
  induction xs with
  | nil => rfl
  | cons c rest ih =>
    obtain ⟨piece, more, parts⟩ := List.exists_cons_of_ne_nil (pieces_ne_nil separator rest)
    by_cases same : c = separator
    · rw [List.cons_append, pieces, if_pos same, ih, pieces, if_pos same, parts]
      rfl
    · rw [List.cons_append, pieces_cons_of_ne same, pieces_cons_of_ne same, ih, parts]
      cases more with
      | nil => simp [pieces_cons_of_ne same]
      | cons next more => simp [List.getLast?_cons_cons]

theorem pieces_of_not_mem {xs : List α} (h : separator ∉ xs) : pieces separator xs = [xs] := by
  induction xs with
  | nil => rfl
  | cons c rest ih =>
    rw [List.mem_cons, not_or] at h
    rw [pieces_cons_of_ne (Ne.symm h.1), ih h.2]
    rfl

theorem pieces_append_separator {xs : List α} (h : separator ∉ xs) (ys : List α) :
    pieces separator (xs ++ separator :: ys) = xs :: pieces separator ys := by
  induction xs with
  | nil => simp [pieces]
  | cons c rest ih =>
    rw [List.mem_cons, not_or] at h
    rw [List.cons_append, pieces_cons_of_ne (Ne.symm h.1), ih h.2]
    rfl

theorem exists_last_piece (separator : α) (xs : List α) : ∃ piece, (pieces separator xs).getLast? = some piece :=
  ⟨_, List.getLast?_eq_some_getLast (pieces_ne_nil separator xs)⟩

theorem not_mem_of_mem_pieces {xs piece : List α} (h : piece ∈ pieces separator xs) :
    separator ∉ piece := by
  induction xs generalizing piece with
  | nil =>
    rw [List.mem_singleton.mp h]
    exact List.not_mem_nil
  | cons c rest ih =>
    by_cases same : c = separator
    · rw [pieces, if_pos same] at h
      rcases List.mem_cons.mp h with rfl | h
      · exact List.not_mem_nil
      · exact ih h
    · rw [pieces_cons_of_ne same] at h
      obtain ⟨first, more, parts⟩ := List.exists_cons_of_ne_nil (pieces_ne_nil separator rest)
      rw [parts] at h ih
      rcases List.mem_cons.mp h with rfl | h
      · rw [List.mem_cons, not_or]
        exact ⟨Ne.symm same, ih List.mem_cons_self⟩
      · exact ih (List.mem_cons_of_mem first h)

theorem flatMap_pieces (separator : α) (xs : List α) :
    ((pieces separator xs).dropLast.flatMap fun piece => piece ++ [separator]) ++
      (pieces separator xs).getLast?.getD [] = xs := by
  induction xs with
  | nil => rfl
  | cons c rest ih =>
    obtain ⟨first, more, parts⟩ := List.exists_cons_of_ne_nil (pieces_ne_nil separator rest)
    rw [parts] at ih
    by_cases same : c = separator
    · rw [pieces, if_pos same, parts, same]
      exact congrArg (separator :: ·) ih
    · rw [pieces_cons_of_ne same, parts]
      cases more with
      | nil => exact congrArg (c :: ·) ih
      | cons next more =>
        simp only [List.headD_cons, List.tail_cons, List.dropLast_cons_cons, List.flatMap_cons,
          List.getLast?_cons_cons, List.append_assoc, List.cons_append] at ih ⊢
        rw [ih]

end Text

namespace EventDecoder

variable {d : EventDecoder}

@[simp] theorem line_buffer (d : EventDecoder) (text : List Char) :
    (d.line text).1.buffer = d.buffer := by
  rw [line]
  split
  · split <;> rfl
  · dsimp only
    split
    · rfl
    · split <;> rfl

theorem lines_append (d : EventDecoder) (xs ys : List (List UInt8)) :
    d.lines (xs ++ ys) =
      (((d.lines xs).1.lines ys).1, (d.lines xs).2 ++ ((d.lines xs).1.lines ys).2) := by
  induction xs generalizing d with
  | nil => rfl
  | cons bytes rest ih => simp only [List.cons_append, lines, ih, List.append_assoc]

/-- A line is taken in the same way whatever is in the buffer. -/
theorem line_withBuffer (d : EventDecoder) (buffer : List UInt8) (text : List Char) :
    { d with buffer := buffer }.line text =
      ({ (d.line text).1 with buffer := buffer }, (d.line text).2) := by
  simp only [line]
  split
  · split <;> rfl
  · split
    · rfl
    · split <;> rfl

theorem lines_withBuffer (d : EventDecoder) (buffer : List UInt8) (xs : List (List UInt8)) :
    { d with buffer := buffer }.lines xs =
      ({ (d.lines xs).1 with buffer := buffer }, (d.lines xs).2) := by
  induction xs generalizing d with
  | nil => rfl
  | cons bytes rest ih => simp only [lines, line_withBuffer, ih]

theorem feed_eq (d : EventDecoder) (chunk : List UInt8) : d.feed chunk =
    ({ (d.lines (Text.pieces 10 (d.buffer ++ chunk)).dropLast).1 with
        buffer := (Text.pieces 10 (d.buffer ++ chunk)).getLast?.getD [] },
      (d.lines (Text.pieces 10 (d.buffer ++ chunk)).dropLast).2) :=
  lines_withBuffer d _ _

/-- A decoder fed two pieces at once is fed one after the other. -/
theorem feed_append (d : EventDecoder) (xs ys : List UInt8) :
    d.feed (xs ++ ys) = (((d.feed xs).1.feed ys).1, (d.feed xs).2 ++ ((d.feed xs).1.feed ys).2) := by
  obtain ⟨piece, last⟩ := Text.exists_last_piece (10 : UInt8)
    ((Text.pieces 10 (d.buffer ++ xs)).getLast?.getD [] ++ ys)
  simp only [feed_eq]
  rw [← List.append_assoc, Text.pieces_append,
    List.dropLast_append_of_ne_nil (Text.pieces_ne_nil _ _), List.getLast?_append, last,
    lines_append]
  simp only [lines_withBuffer, Option.some_or, Option.getD_some]

/-- Without an unfinished line that is one already, an empty chunk does nothing. -/
theorem feed_nil (ended : 10 ∉ d.buffer) : d.feed [] = (d, []) := by
  rw [feed_eq, List.append_nil, Text.pieces_of_not_mem ended]
  rfl

theorem feed_buffer (d : EventDecoder) (chunk : List UInt8) : 10 ∉ (d.feed chunk).1.buffer := by
  rw [feed_eq]
  obtain ⟨piece, last⟩ := Text.exists_last_piece (10 : UInt8) (d.buffer ++ chunk)
  rw [last]
  exact Text.not_mem_of_mem_pieces (List.mem_of_getLast? last)

/-- However a stream is cut, the decoder makes the same of it. -/
theorem feedAll_eq_feed (ended : 10 ∉ d.buffer) (chunks : List (List UInt8)) :
    d.feedAll chunks = d.feed chunks.flatten := by
  induction chunks generalizing d with
  | nil => exact (feed_nil ended).symm
  | cons chunk rest ih =>
    rw [feedAll, ih (d.feed_buffer chunk), List.flatten_cons, feed_append]

/-- The decoders that come of feeding a new one. -/
inductive Reached : EventDecoder → Prop where
  | start : Reached start
  | fed {d : EventDecoder} (h : Reached d) (chunk : List UInt8) : Reached (d.feed chunk).1

theorem Reached.ended (h : d.Reached) : 10 ∉ d.buffer := by
  cases h with
  | start => exact List.not_mem_nil
  | fed h chunk => exact feed_buffer _ chunk

/-- What is fed in chunks is fed at once, if anything is; else the decoder must be one that was fed
before, or a new one. -/
theorem feedAll_eq_feed_of_fed {chunks : List (List UInt8)} (fed : chunks ≠ [] ∨ d.Reached) :
    d.feedAll chunks = d.feed chunks.flatten := by
  cases chunks with
  | nil => exact feedAll_eq_feed (fed.resolve_left (absurd rfl)).ended []
  | cons chunk rest =>
    rw [feedAll, feedAll_eq_feed (d.feed_buffer chunk), List.flatten_cons, feed_append]

/-- What a decoder makes of a stream does not depend on how its bytes are cut: it takes in each line
that a line feed has ended, once and in order, and keeps the bytes after the last line feed. -/
theorem cuts_immaterial {chunks : List (List UInt8)} (fed : chunks ≠ [] ∨ d.Reached) :
    d.feedAll chunks = d.feed chunks.flatten ∧ 10 ∉ (d.feedAll chunks).1.buffer ∧
      ∃ (ended : List (List UInt8)) (rest : List UInt8), (∀ bytes ∈ ended, 10 ∉ bytes) ∧
        d.buffer ++ chunks.flatten = (ended.flatMap fun bytes => bytes ++ [10]) ++ rest ∧
        d.feedAll chunks = ({ (d.lines ended).1 with buffer := rest }, (d.lines ended).2) := by
  rw [feedAll_eq_feed_of_fed fed]
  refine ⟨rfl, feed_buffer d _, _, _, ?_, (Text.flatMap_pieces 10 _).symm, feed_eq d _⟩
  exact fun bytes there => Text.not_mem_of_mem_pieces (List.dropLast_subset _ there)

def cutEvent : List (List UInt8) :=
  [Utf8.encode "data: ".toList ++ [0xC3], [0xA9, 13], [], [10, 13, 10, 100]]

theorem cutEvent_decoded : start.feedAll cutEvent = (⟨[100], none, []⟩, [⟨"message", "é"⟩]) ∧
    start.feedAll cutEvent = start.feed cutEvent.flatten := by
  have whole : start.feedAll cutEvent = start.feed cutEvent.flatten :=
    (cuts_immaterial (.inr .start)).1
  refine ⟨?_, whole⟩
  rw [whole]
  decide

theorem feed_line {text : List Char} (empty : d.buffer = []) (printable : ∀ c ∈ text, 0x20 ≤ c.toNat) :
    d.feed (Utf8.encode (text ++ ['\n'])) = d.line text := by
  have control {b : UInt8} (h : b.toNat < 0x20) : b ∉ Utf8.encode text := fun there =>
    absurd (Utf8.le_of_mem_encode printable there) (Nat.not_le_of_lt h)
  have parts : Text.pieces 10 (Utf8.encode (text ++ ['\n'])) = [Utf8.encode text, []] := by
    rw [Utf8.encode_append]
    exact Text.pieces_append_separator (control (by decide)) []
  have unreturned : dropReturn (Utf8.encode text) = Utf8.encode text := by
    rw [dropReturn, if_neg]
    intro last
    exact control (b := 13) (by decide) (List.mem_of_getLast? last)
  have kept : { (d.line text).1 with buffer := [] } = (d.line text).1 := by
    rw [← empty, ← line_buffer d text]
  rw [feed_eq, empty, List.nil_append, parts]
  simp only [List.dropLast_cons_cons, List.dropLast_singleton, lines, unreturned,
    Utf8.decodeLossy_encode, List.append_nil, List.getLast?_cons_cons, List.getLast?_singleton,
    Option.getD_some, kept]

theorem field_event (value : List Char) : field ("event: ".toList ++ value) = ("event".toList, value) := by
  simp [field]

theorem field_data (value : List Char) : field ("data: ".toList ++ value) = ("data".toList, value) := by
  simp [field]

theorem line_event (d : EventDecoder) (name : String) :
    d.line ("event: ".toList ++ name.toList) = ({ d with event := some name }, []) := by
  rw [line, if_neg (by simp), field_event]
  simp

theorem line_data (d : EventDecoder) (value : String) :
    d.line ("data: ".toList ++ value.toList) = ({ d with data := d.data ++ [value] }, []) := by
  rw [line, if_neg (by simp), field_data]
  simp

/-- The block of an event whose name and data are one line each brings out the event. -/
theorem feed_event {e : PushEvent} (name : ∀ c ∈ e.event.toList, 0x20 ≤ c.toNat)
    (data : ∀ c ∈ e.data.toList, 0x20 ≤ c.toNat) :
    start.feed (Utf8.encode e.text.toList) = (start, [e]) := by
  have cut : e.text.toList = ("event: ".toList ++ e.event.toList ++ ['\n']) ++
      (("data: ".toList ++ e.data.toList ++ ['\n']) ++ ([] ++ ['\n'])) := by
    simp [PushEvent.text]
  have named : ∀ c ∈ "event: ".toList ++ e.event.toList, 0x20 ≤ c.toNat :=
    List.forall_mem_append.mpr ⟨Text.le_of_all rfl, name⟩
  have given : ∀ c ∈ "data: ".toList ++ e.data.toList, 0x20 ≤ c.toNat :=
    List.forall_mem_append.mpr ⟨Text.le_of_all rfl, data⟩
  rw [cut, Utf8.encode_append, feed_append, feed_line rfl named, line_event, Utf8.encode_append,
    feed_append, feed_line rfl given, line_data, feed_line rfl (List.forall_mem_nil _)]
  rfl

theorem feed_keepAlive : start.feed (Utf8.encode PushEvent.keepAlive.toList) = (start, []) := by
  decide

end EventDecoder
end CommandBridge
