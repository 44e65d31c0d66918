import Highlighter.Error
import Highlighter.Output
import Highlighter.Output.Sink

/-!
# Writing to a sink that fills up

Segments are written piece by piece, and the first piece that does not find room ends the writing.
Where that happens does not show: a terminal's output and a listing are the same pieces in any monad
(`Terminal.writeTo_eq`, `Listing.writeTo_eq`), pieces are taken like one text (`Sink.write_eq_put`),
and a sink may take a text in as many portions as it likes (`Sink.offer_utf8`). So a sink that is too
small is left with exactly the first bytes of the output (`Sink.filledBy_writeTo`).
-/

namespace Highlighter

/-- A place for output. What goes wrong there is an effect of `m`. -/
structure Outlet (m : Type → Type) where
  put : Text → m Unit
  flush : m Unit

/-! ### Writing segments -/

section

variable {m : Type → Type} [Monad m]

theorem forM_flatMap [LawfulMonad m] {α β : Type} (items : List α) (parts : α → List β)
    (act : β → m Unit) :
    forM (items.flatMap parts) act = forM items fun item => forM (parts item) act := by
  induction items with
  | nil => rfl
  | cons item rest ih => rw [List.flatMap_cons, List.forM_append, ih, List.forM_cons]

variable (outlet : Outlet m)

/-- If each segment is put in pieces, all of them are. -/
theorem forM_eq_of_pieces [LawfulMonad m] {writeSegment : Segment → m Unit}
    {pieces : Segment → List Text}
    (h : ∀ segment, writeSegment segment = forM (pieces segment) outlet.put)
    (segments : List Segment) :
    forM segments writeSegment = forM (segments.flatMap pieces) outlet.put := by
  rw [forM_flatMap, funext h]

namespace Terminal

def writeStyle (style : Style) : m Unit := do
  forM (colorOf 38 style.foreground) outlet.put
  forM (colorOf 48 style.background) outlet.put
  forM (flag '1' style.bold) outlet.put
  forM (flag '3' style.italic) outlet.put
  forM (flag '4' style.underline) outlet.put
  forM (flag '7' style.reverse) outlet.put

def writeSegment (segment : Segment) : m Unit := do
  if segment.style.isNeutral then
    outlet.put segment.text
  else
    writeStyle outlet segment.style
    outlet.put segment.text
    outlet.put reset
    outlet.put reset

def writeTo (segments : List Segment) : m Unit := do
  forM segments (writeSegment outlet)
  outlet.flush

variable [LawfulMonad m]

theorem writeStyle_eq (style : Style) :
    writeStyle outlet style = forM (switchOn style) outlet.put := by
  simp only [writeStyle, switchOn, List.forM_append, bind_assoc]

theorem writeSegment_eq (segment : Segment) :
    writeSegment outlet segment = forM (pieces segment) outlet.put := by
  unfold writeSegment pieces
  split
  · simp
  · simp [writeStyle_eq, List.forM_append]

theorem writeTo_eq (segments : List Segment) :
    writeTo outlet segments = (do
      forM (render segments) outlet.put
      outlet.flush) := by
  rw [writeTo, forM_eq_of_pieces outlet (writeSegment_eq outlet), render]

end Terminal

namespace Listing

def writeQuoted (text : Text) : m Unit := do
  outlet.put ['"']
  forM text fun char => outlet.put (Text.escape char)
  outlet.put ['"']

def writeSegment (segment : Segment) : m Unit := do
  outlet.put segment.category.name.toList
  outlet.put ['\t']
  outlet.put (Nat.toDigits 10 segment.start)
  outlet.put ['\t']
  writeQuoted outlet segment.text
  outlet.put ['\n']

def writeTo (segments : List Segment) : m Unit := do
  forM segments (writeSegment outlet)
  outlet.flush

def pieces (segment : Segment) : List Text :=
  [segment.category.name.toList, ['\t'], Nat.toDigits 10 segment.start, ['\t'], ['"']] ++
    segment.text.map Text.escape ++ [['"'], ['\n']]

theorem flatten_flatMap_pieces (segments : List Segment) :
    (segments.flatMap pieces).flatten = (render segments).flatten := by
  have hline (segment : Segment) : (pieces segment).flatten = line segment := by
    simp [pieces, line, Text.quoted, List.flatMap_def]
  induction segments with
  | nil => rfl
  | cons segment rest ih =>
      rw [List.flatMap_cons, List.flatten_append, hline, ih, render, render, List.map_cons,
        List.flatten_cons]

variable [LawfulMonad m]

theorem writeSegment_eq (segment : Segment) :
    writeSegment outlet segment = forM (pieces segment) outlet.put := by
  simp [writeSegment, writeQuoted, pieces, List.forM_append, List.forM_map]

theorem writeTo_eq (segments : List Segment) :
    writeTo outlet segments = (do
      forM (segments.flatMap pieces) outlet.put
      outlet.flush) := by
  rw [writeTo, forM_eq_of_pieces outlet (writeSegment_eq outlet)]

end Listing

end

/-! ### Sinks as outlets -/

namespace Sink

/-- How many bytes past the first one a sink takes at most when it is offered some. -/
abbrev Portions := Sink → List UInt8 → Nat

/-- Offers bytes, then those that were not taken, and so on until none is left or there is no
room. -/
def offer (portions : Portions) (sink : Sink) (bytes : List UInt8) : Sink × Bool :=
  if _ : bytes = [] then (sink, true)
  else if _ : sink.room = 0 then (sink, false)
  else
    let count := min (portions sink bytes + 1) (min sink.room bytes.length)
    offer portions ⟨sink.taken ++ bytes.take count, sink.room - count⟩ (bytes.drop count)
termination_by bytes.length
decreasing_by
  have hpos := List.length_pos_iff.mpr ‹¬bytes = []›
  rw [List.length_drop]
  omega

variable (portions : Portions) (cause : AccessError)

/-- The portions in which a sink takes bytes do not show. -/
theorem offer_eq (sink : Sink) (bytes : List UInt8) :
    offer portions sink bytes =
      (⟨sink.taken ++ bytes.take sink.room, sink.room - bytes.length⟩,
        decide (bytes.length ≤ sink.room)) := by
  fun_induction offer portions sink bytes with
  | case1 sink => simp
  | case2 sink bytes hbytes hroom =>
      have hpos := List.length_pos_iff.mpr hbytes
      have hmore : ¬ bytes.length ≤ 0 := by omega
      obtain ⟨taken, room⟩ := sink
      obtain rfl : room = 0 := hroom
      simp [hmore]
  | case3 sink bytes hbytes hroom count ih =>
      -- this portion and those that follow are together what one piece of the sink would be
      have hroom : count ≤ sink.room := by omega
      have hlength : count ≤ bytes.length := by omega
      have htake : bytes.take count ++ (bytes.drop count).take (sink.room - count)
          = bytes.take sink.room := by
        rw [← List.take_add, Nat.add_sub_cancel' hroom]
      have hsub : sink.room - count - (bytes.length - count) = sink.room - bytes.length := by omega
      have hiff : bytes.length - count ≤ sink.room - count ↔ bytes.length ≤ sink.room := by omega
      rw [ih, List.append_assoc, htake, List.length_drop, hsub, decide_eq_decide.mpr hiff]

theorem offer_utf8 (sink : Sink) (piece : Text) :
    offer portions sink piece.utf8 = sink.put piece := by
  rw [offer_eq, put, Text.length_utf8]

/-- A writer to a sink. What the sink has taken stays there also where writing fails. -/
abbrev Writer := ExceptT Error (StateM Sink)

/-- The result of writing, and the sink that it leaves. -/
def after (sink : Sink) (writer : Writer Unit) : Except Error Unit × Sink :=
  Id.run (writer.run.run sink)

/-- Keeps the sink as it is left, and fails if it did not take everything. -/
def settle (cause : AccessError) : Sink × Bool → Writer Unit
  | (next, true) => set next
  | (next, false) => do
    set next
    throw (.access cause)

/-- The sink as an outlet that fails for the cause given where there is no room. There is nothing
that flushing could hand on. -/
def outlet : Outlet Writer where
  put piece := do
    settle cause (offer portions (← get) piece.utf8)
  flush := return

/-- What is known of a writer when the sink took everything or not. -/
def report (cause : AccessError) : Sink × Bool → Except Error Unit × Sink
  | (next, true) => (.ok (), next)
  | (next, false) => (.error (.access cause), next)

theorem after_put (sink : Sink) (piece : Text) :
    sink.after ((outlet portions cause).put piece) = report cause (sink.put piece) := by
  -- the writer looks at the sink, offers it the bytes and settles on the sink it is left with
  change sink.after (settle cause (offer portions sink piece.utf8)) = _
  rw [offer_utf8]
  cases sink.put piece with
  | mk next done => cases done <;> rfl

theorem after_bind (sink : Sink) (writer : Writer Unit) (later : Unit → Writer Unit) :
    sink.after (writer >>= later) =
      match sink.after writer with
      | (.ok (), next) => next.after (later ())
      | (.error error, next) => (.error error, next) := by
  unfold after
  rw [ExceptT.run_bind, StateT.run_bind]
  cases writer.run.run sink with
  | mk result next => cases result <;> rfl

theorem after_forM_put (sink : Sink) (pieces : List Text) :
    sink.after (forM pieces (outlet portions cause).put) = report cause (sink.write pieces) := by
  induction pieces generalizing sink with
  | nil => rfl
  | cons piece rest ih =>
      rw [List.forM_cons, after_bind, after_put, write]
      cases sink.put piece with
      | mk next done =>
          cases done with
          | true => exact ih next
          | false => rfl

theorem after_flush (sink : Sink) (writer : Writer Unit) :
    sink.after (do writer; (outlet portions cause).flush) = sink.after writer := by
  rw [after_bind]
  cases sink.after writer with
  | mk result next => cases result <;> rfl

/-- An outlet that takes everything. -/
def boundless : Outlet (StateM (List UInt8)) where
  put piece := modify (· ++ piece.utf8)
  flush := return

/-- All that is written where there is room for everything. -/
def output (writer : StateM (List UInt8) Unit) : List UInt8 :=
  (Id.run (writer.run [])).2

theorem output_forM_put (pieces : List Text) :
    output (do forM pieces boundless.put; boundless.flush) = Text.utf8 pieces.flatten := by
  have hrun (before : List UInt8) : (forM pieces boundless.put).run before
      = pure ((), before ++ Text.utf8 pieces.flatten) := by
    induction pieces generalizing before with
    | nil => simp [Text.utf8]
    | cons piece rest ih =>
        have hpiece : (boundless.put piece).run before = pure ((), before ++ piece.utf8) := rfl
        rw [List.forM_cons, StateT.run_bind, hpiece, pure_bind, ih, List.flatten_cons,
          Text.utf8_append, List.append_assoc]
  rw [output, StateT.run_bind, hrun]
  rfl

/-! ### What a sink is left with -/

theorem report_put (room : Nat) (text : Text) :
    report cause ((ofRoom room).put text) =
      (if text.size ≤ room then .ok () else .error (.access cause),
        ⟨text.utf8.take room, room - text.size⟩) := by
  by_cases hfits : text.size ≤ room <;> simp [put, ofRoom, report, hfits]

/-- Something that can be written to any outlet. -/
abbrev Writable :=
  (m : Type → Type) → [Monad m] → Outlet m → m Unit

/-- The pieces are what is written, and a sink with room for some bytes takes exactly as many of the
first ones. Writing fails if that is not all. -/
structure FilledBy (writable : Writable) (pieces : List Text) (room : Nat) : Prop where
  whole : output (writable _ boundless) = Text.utf8 pieces.flatten
  written : (ofRoom room).after (writable _ (outlet portions cause))
    = report cause ((ofRoom room).write pieces)
  taken : ((ofRoom room).after (writable _ (outlet portions cause))).2.taken
    = (output (writable _ boundless)).take room
  succeeds : ((ofRoom room).after (writable _ (outlet portions cause))).1 = .ok () ↔
    (output (writable _ boundless)).length ≤ room
  fails : ((ofRoom room).after (writable _ (outlet portions cause))).1 = .error (.access cause) ↔
    room < (output (writable _ boundless)).length

theorem filledBy_of_eq {writable : Writable} {parts pieces : List Text}
    (h : ∀ (m : Type → Type) [Monad m] [LawfulMonad m] (outlet : Outlet m),
      writable m outlet = (do forM parts outlet.put; outlet.flush))
    (hflatten : parts.flatten = pieces.flatten) (room : Nat) :
    FilledBy portions cause writable pieces room := by
  have hwhole : output (writable _ boundless) = Text.utf8 pieces.flatten := by
    rw [h, output_forM_put, hflatten]
  have hwritten : (ofRoom room).after (writable _ (outlet portions cause))
      = report cause ((ofRoom room).write pieces) := by
    -- the cut into parts and the cut into pieces both disappear in the whole text
    rw [h, after_flush, after_forM_put, write_eq_put, write_eq_put, hflatten]
  have hafter := hwritten.trans (by rw [write_eq_put, report_put])
  refine ⟨hwhole, hwritten, ?_, ?_, ?_⟩
  · rw [hafter, hwhole]
  · rw [hafter, hwhole, Text.length_utf8]
    simp
  · rw [hafter, hwhole, Text.length_utf8, ← Nat.not_le]
    simp

/-- **A sink that fills up** is left with the first bytes of the output, whatever it is that shows
the segments and in whatever portions the sink takes bytes. Writing succeeds exactly if there is room
for all of it. -/
theorem filledBy_writeTo (segments : List Segment) (room : Nat) :
    FilledBy portions cause (fun _ _ outlet => Terminal.writeTo outlet segments)
        (Terminal.render segments) room ∧
      FilledBy portions cause (fun _ _ outlet => Listing.writeTo outlet segments)
        (Listing.render segments) room := by
  constructor
  · refine filledBy_of_eq portions cause ?_ rfl room
    intro m _ _ outlet
    exact Terminal.writeTo_eq outlet segments
  · refine filledBy_of_eq portions cause ?_ (Listing.flatten_flatMap_pieces segments) room
    intro m _ _ outlet
    exact Listing.writeTo_eq outlet segments

end Sink

end Highlighter
