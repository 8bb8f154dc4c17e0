import Mathlib.Data.List.Basic
import Mathlib.Tactic.SplitIfs

/-!
# Framing with an escape symbol

A message is sent between two marks.  A mark that occurs in the message is
hidden: it is changed, and the escape symbol is put in front of it.  So the
last mark occurs nowhere else, and the first one starts the reader again
whatever it has read before.  A frame which was cut off is passed over.
-/

namespace EspFirmware.Library

universe u

/-- Three marks, and a change of the symbols which hides the marks. -/
structure Framing (Symbol : Type u) where
  begins : Symbol
  ends : Symbol
  escape : Symbol
  change : Symbol → Symbol
  begins_ne_ends : begins ≠ ends
  ends_ne_escape : ends ≠ escape
  begins_ne_escape : begins ≠ escape
  change_change : ∀ symbol, change (change symbol) = symbol
  change_begins : change begins ∉ [begins, ends, escape]
  change_ends : change ends ∉ [begins, ends, escape]
  change_escape : change escape ∉ [begins, ends, escape]

/-- What a reader has read of a message. -/
@[ext]
structure Deframer (Symbol : Type u) where
  data : List Symbol
  escaped : Bool
  inside : Bool
deriving DecidableEq

/-- A list that is filled up to its capacity. -/
theorem take_concat
    {Symbol : Type u}
    (capacity : Nat) (symbols : List Symbol) (symbol : Symbol) :
    (symbols ++ [symbol]).take capacity =
      if (symbols.take capacity).length < capacity then
        symbols.take capacity ++ [symbol]
      else
        symbols.take capacity := by
  rw [List.length_take]
  split_ifs with room
  · have short : symbols.length < capacity := by
      omega
    rw [List.take_of_length_le (by simpa using Nat.succ_le_of_lt short),
      List.take_of_length_le (Nat.le_of_lt short)]
  · exact List.take_append_of_le_length (by omega)

namespace Framing

variable {Symbol : Type u} (framing : Framing Symbol)

/-- The symbols which are hidden. -/
def marks : List Symbol :=
  [framing.begins, framing.ends, framing.escape]

theorem change_not_mark
    {symbol : Symbol}
    (mark : symbol ∈ framing.marks) :
    framing.change symbol ∉ framing.marks := by
  rcases List.mem_cons.mp mark with rfl | mark
  · exact framing.change_begins
  · rcases List.mem_cons.mp mark with rfl | mark
    · exact framing.change_ends
    · rw [List.mem_singleton.mp mark]
      exact framing.change_escape

variable [DecidableEq Symbol]

/-- A symbol of a message, hidden if it is a mark. -/
def stuffSymbol (symbol : Symbol) : List Symbol :=
  if symbol ∈ framing.marks then
    [framing.escape, framing.change symbol]
  else
    [symbol]

/-- A message without its marks. -/
def stuff (message : List Symbol) : List Symbol :=
  message.flatMap framing.stuffSymbol

/-- A message between its marks. -/
def frame (message : List Symbol) : List Symbol :=
  framing.begins :: (framing.stuff message ++ [framing.ends])

theorem ends_not_mem_stuff (message : List Symbol) :
    framing.ends ∉ framing.stuff message := by
  intro member
  rcases List.mem_flatMap.mp member with ⟨symbol, -, among⟩
  rw [stuffSymbol] at among
  split_ifs at among with mark
  · rcases List.mem_pair.mp among with escape | changed
    · exact framing.ends_ne_escape escape
    · have hidden := framing.change_not_mark mark
      rw [← changed] at hidden
      exact hidden (by simp [marks])
  · rw [← List.mem_singleton.mp among] at mark
    exact mark (by simp [marks])

/-- A frame which is cut off anywhere has no last mark. -/
theorem ends_not_mem_take_frame
    {message : List Symbol} {count : Nat}
    (cut : count < (framing.frame message).length) :
    framing.ends ∉ (framing.frame message).take count := by
  have split :
      framing.frame message =
        (framing.begins :: framing.stuff message) ++ [framing.ends] := rfl
  rw [split, List.length_append, List.length_singleton] at cut
  rw [split, List.take_append_of_le_length (by omega)]
  intro member
  rcases List.mem_cons.mp (List.mem_of_mem_take member) with begins | stuffed
  · exact framing.begins_ne_ends begins.symm
  · exact framing.ends_not_mem_stuff message stuffed

theorem length_frame (message : List Symbol) :
    (framing.frame message).length = (framing.stuff message).length + 2 := by
  rw [frame, List.length_cons, List.length_append, List.length_singleton]

/-! ## Reading -/

/-- What a symbol does to a reader with room for some symbols. -/
def read
    (capacity : Nat) (reader : Deframer Symbol) (symbol : Symbol) :
    Deframer Symbol :=
  if symbol = framing.escape then
    { reader with escaped := true }
  else if symbol = framing.begins then
    { data := [], escaped := false, inside := true }
  else if symbol = framing.ends then
    { reader with inside := false }
  else if reader.inside then
    let value := if reader.escaped then framing.change symbol else symbol
    { data :=
        if reader.data.length < capacity then
          reader.data ++ [value]
        else
          reader.data
      escaped := false
      inside := true }
  else
    reader

/-- Read until a message is complete: the message, and what follows it. -/
def deframe (capacity : Nat) :
    Deframer Symbol → List Symbol → Option (List Symbol × List Symbol)
  | _, [] => none
  | reader, symbol :: rest =>
      if symbol = framing.ends then
        some (reader.data, rest)
      else
        deframe capacity (framing.read capacity reader symbol) rest

/-- The reader of a message that has begun. -/
def reading (capacity : Nat) (message : List Symbol) : Deframer Symbol where
  data := message.take capacity
  escaped := false
  inside := true

theorem read_begins (capacity : Nat) (reader : Deframer Symbol) :
    framing.read capacity reader framing.begins = reading capacity [] := by
  rw [read, if_neg framing.begins_ne_escape, if_pos rfl, reading,
    List.take_nil]

/-- A symbol of the message is read back, hidden or not. -/
theorem foldl_read_stuffSymbol
    (capacity : Nat) (message : List Symbol) (symbol : Symbol) :
    (framing.stuffSymbol symbol).foldl (framing.read capacity)
        (reading capacity message) =
      reading capacity (message ++ [symbol]) := by
  rw [stuffSymbol]
  split_ifs with mark
  · have hidden := framing.change_not_mark mark
    simp only [marks, List.mem_cons, List.not_mem_nil, or_false,
      not_or] at hidden
    rw [List.foldl_cons, List.foldl_cons, List.foldl_nil, read, read,
      if_neg hidden.2.2, if_neg hidden.1, if_neg hidden.2.1]
    simp only [if_true, reading, framing.change_change, take_concat]
  · simp only [marks, List.mem_cons, List.not_mem_nil, or_false,
      not_or] at mark
    rw [List.foldl_cons, List.foldl_nil, read, if_neg mark.2.2,
      if_neg mark.1, if_neg mark.2.1]
    simp only [if_true, reading, take_concat, Bool.false_eq_true, if_false]

theorem foldl_read_stuff
    (capacity : Nat) (front message : List Symbol) :
    (framing.stuff message).foldl (framing.read capacity)
        (reading capacity front) =
      reading capacity (front ++ message) := by
  induction message generalizing front with
  | nil =>
      rw [List.append_nil]
      rfl
  | cons symbol rest induction =>
      rw [stuff, List.flatMap_cons, List.foldl_append,
        foldl_read_stuffSymbol, ← stuff, induction, List.append_assoc,
        List.singleton_append]

/-- Without a last mark, reading goes on behind. -/
theorem deframe_append
    {front : List Symbol}
    (unended : framing.ends ∉ front)
    (capacity : Nat) (reader : Deframer Symbol) (back : List Symbol) :
    framing.deframe capacity reader (front ++ back) =
      framing.deframe capacity
        (front.foldl (framing.read capacity) reader) back := by
  induction front generalizing reader with
  | nil =>
      rfl
  | cons symbol rest induction =>
      have passes : symbol ≠ framing.ends := fun same =>
        unended (by rw [same]; exact List.mem_cons_self)
      rw [List.cons_append, deframe, if_neg passes, List.foldl_cons]
      exact induction (fun member => unended (.tail _ member)) _

theorem deframe_of_not_mem
    {symbols : List Symbol}
    (unended : framing.ends ∉ symbols)
    (capacity : Nat) (reader : Deframer Symbol) :
    framing.deframe capacity reader symbols = none := by
  have read := framing.deframe_append unended capacity reader []
  rw [List.append_nil] at read
  exact read

/-- A message is complete at the first last mark. -/
theorem deframe_eq_some
    {capacity : Nat} {reader : Deframer Symbol}
    {symbols message rest : List Symbol}
    (read :
      framing.deframe capacity reader symbols = some (message, rest)) :
    ∃ front, symbols = front ++ framing.ends :: rest := by
  induction symbols generalizing reader with
  | nil =>
      cases read
  | cons symbol symbols induction =>
      rw [deframe] at read
      split_ifs at read with ends
      · cases read
        exact ⟨[], by rw [ends, List.nil_append]⟩
      · rcases induction read with ⟨front, rfl⟩
        exact ⟨symbol :: front, rfl⟩

/-- Whatever was read before, a frame is read back, up to the capacity. -/
theorem deframe_frame
    (capacity : Nat) (reader : Deframer Symbol)
    (message back : List Symbol) :
    framing.deframe capacity reader (framing.frame message ++ back) =
      some (message.take capacity, back) := by
  have stuffed :
      framing.ends ∉ framing.begins :: framing.stuff message := by
    intro member
    rcases List.mem_cons.mp member with begins | stuffed
    · exact framing.begins_ne_ends begins.symm
    · exact framing.ends_not_mem_stuff message stuffed
  have split :
      framing.frame message ++ back =
        (framing.begins :: framing.stuff message) ++
          framing.ends :: back := by
    simp [frame]
  rw [split, framing.deframe_append stuffed, List.foldl_cons, read_begins,
    foldl_read_stuff, List.nil_append, deframe, if_pos rfl, reading]

end Framing

/-! ## Streams with torn frames -/

/-- A frame, behind what is left of frames that were cut off. -/
structure Chunk {Symbol : Type u} (framing : Framing Symbol) where
  torn : List Symbol
  message : List Symbol
  unended : framing.ends ∉ torn

/-- What is on the line for a chunk. -/
def Chunk.symbols
    {Symbol : Type u} {framing : Framing Symbol} [DecidableEq Symbol]
    (chunk : Chunk framing) :
    List Symbol :=
  chunk.torn ++ framing.frame chunk.message

/-- Frames, with what is left of frames that were cut off between and behind them. -/
structure FrameStream {Symbol : Type u} (framing : Framing Symbol) where
  chunks : List (Chunk framing)
  torn : List Symbol
  unended : framing.ends ∉ torn

namespace FrameStream

variable {Symbol : Type u} {framing : Framing Symbol}

/-- Nothing has been sent. -/
def empty : FrameStream framing where
  chunks := []
  torn := []
  unended := List.not_mem_nil

/-- The messages which were sent as a whole. -/
def messages (stream : FrameStream framing) : List (List Symbol) :=
  stream.chunks.map Chunk.message

/-- The stream behind its first chunk. -/
def tail (stream : FrameStream framing) : FrameStream framing :=
  { stream with chunks := stream.chunks.tail }

/-- A whole frame is sent. -/
def send (stream : FrameStream framing) (message : List Symbol) :
    FrameStream framing where
  chunks := stream.chunks ++ [⟨stream.torn, message, stream.unended⟩]
  torn := []
  unended := List.not_mem_nil

/-- A frame is cut off. -/
def tear
    (stream : FrameStream framing) (piece : List Symbol)
    (unended : framing.ends ∉ piece) :
    FrameStream framing where
  chunks := stream.chunks
  torn := stream.torn ++ piece
  unended := by
    intro member
    rcases List.mem_append.mp member with before | now
    · exact stream.unended before
    · exact unended now

theorem messages_of_cons
    {stream : FrameStream framing}
    {chunk : Chunk framing} {rest : List (Chunk framing)}
    (first : stream.chunks = chunk :: rest) :
    stream.messages = chunk.message :: stream.tail.messages := by
  rw [messages, messages, tail, first, List.map_cons, List.tail_cons]

theorem messages_send (stream : FrameStream framing) (message : List Symbol) :
    (stream.send message).messages = stream.messages ++ [message] := by
  rw [messages, send, List.map_append, messages, List.map_singleton]

/-- What is on the line. -/
def symbols [DecidableEq Symbol] (stream : FrameStream framing) :
    List Symbol :=
  stream.chunks.flatMap Chunk.symbols ++ stream.torn

variable [DecidableEq Symbol]

theorem symbols_send (stream : FrameStream framing) (message : List Symbol) :
    (stream.send message).symbols =
      stream.symbols ++ framing.frame message := by
  simp [symbols, send, Chunk.symbols]

theorem symbols_tear
    (stream : FrameStream framing) (piece : List Symbol)
    (unended : framing.ends ∉ piece) :
    (stream.tear piece unended).symbols = stream.symbols ++ piece := by
  rw [symbols, symbols, tear, List.append_assoc]

/-- What is on the line behind the first chunk. -/
theorem symbols_of_cons
    {stream : FrameStream framing}
    {chunk : Chunk framing} {rest : List (Chunk framing)}
    (first : stream.chunks = chunk :: rest) :
    stream.symbols = chunk.symbols ++ stream.tail.symbols := by
  rw [symbols, symbols, tail, first, List.flatMap_cons, List.tail_cons,
    List.append_assoc]

/-- Only torn frames: nothing is read. -/
theorem deframe_symbols_of_nil
    {stream : FrameStream framing}
    (none : stream.chunks = [])
    (capacity : Nat) (reader : Deframer Symbol) :
    framing.deframe capacity reader stream.symbols = Option.none := by
  rw [symbols, none, List.flatMap_nil, List.nil_append]
  exact framing.deframe_of_not_mem stream.unended capacity reader

/-- The first whole frame is read, and what was torn in front of it is passed over. -/
theorem deframe_symbols_of_cons
    {stream : FrameStream framing}
    {chunk : Chunk framing} {rest : List (Chunk framing)}
    (first : stream.chunks = chunk :: rest)
    (capacity : Nat) (reader : Deframer Symbol) :
    framing.deframe capacity reader stream.symbols =
      some (chunk.message.take capacity, stream.tail.symbols) := by
  rw [symbols_of_cons first, Chunk.symbols, List.append_assoc,
    framing.deframe_append chunk.unended, framing.deframe_frame]

end FrameStream

end EspFirmware.Library
