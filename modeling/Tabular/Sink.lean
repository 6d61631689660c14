import Tabular.Table.Render

/-!
Writing a rendered table to a sink that takes bytes as it likes: a few at a time, after being
interrupted, or not at all.
-/

namespace Tabular

/-- How a sink answers when it is offered bytes. -/
inductive SinkReply where
  /-- it takes that many of the bytes offered, or all if there are fewer; none means that it will
  take no more -/
  | taken (count : Nat)
  /-- it fails -/
  | failed (cause : String)
  deriving DecidableEq, Repr

/-- The behaviour of a sink: it is interrupted some number of times, and then answers each offer
according to how many bytes it holds and how many it is offered. -/
structure Sink where
  interrupts : Nat
  reply : Nat → Nat → SinkReply

/-- What a sink was offered, what it holds in the end, and why not all was written if it was
not. -/
structure Delivery where
  /-- the bytes that each call of the sink offers it, also those of calls that are interrupted -/
  offers : List (List UInt8)
  written : List UInt8
  failure? : Option Error
  deriving DecidableEq, Repr

namespace Sink

/-- Offer the remaining bytes until all are taken, the sink having taken `held`. -/
def offer (sink : Sink) (held : Nat) (bytes : List UInt8) : Delivery :=
  match bytes with
  | [] => ⟨[], [], none⟩
  | byte :: rest =>
      match sink.reply held (rest.length + 1) with
      | .failed cause => ⟨[byte :: rest], [], some { cause := .writeFailed cause }⟩
      | .taken 0 =>
          ⟨[byte :: rest], [], some { cause := .writeFailed "failed to write whole buffer" }⟩
      | .taken (count + 1) =>
          let delivery := sink.offer (held + min (count + 1) (rest.length + 1)) (rest.drop count)
          ⟨(byte :: rest) :: delivery.offers, byte :: rest.take count ++ delivery.written,
            delivery.failure?⟩
termination_by bytes.length
decreasing_by
  simp only [List.length_drop, List.length_cons]
  omega

/-- Offer all bytes to a sink that is interrupted so many times first. An interrupted offer takes
nothing and is made again. Where there are no bytes, no offer is made. -/
def retry (sink : Sink) : Nat → List UInt8 → Delivery
  | _, [] => ⟨[], [], none⟩
  | 0, bytes => sink.offer 0 bytes
  | interrupts + 1, bytes =>
      let delivery := sink.retry interrupts bytes
      { delivery with offers := bytes :: delivery.offers }

/-- Write all bytes to the sink. -/
def writeAll (sink : Sink) (bytes : List UInt8) : Delivery :=
  sink.retry sink.interrupts bytes

end Sink

/-- The bytes of a text in UTF-8. -/
def utf8 (text : String) : List UInt8 :=
  text.toUTF8.data.toList

namespace Table

/-- Render a table and write it to a sink in one piece. A table that cannot be rendered leaves the
sink alone. -/
def renderTo (options : Options) (columns : List Column) (rows : List Row) (sink : Sink) :
    Delivery :=
  match render options columns rows with
  | .ok text => sink.writeAll (utf8 text)
  | .error error => ⟨[], [], some error⟩

/-- Render a table as usual and write it to a sink. -/
def renderText (columns : List Column) (rows : List Row) (sink : Sink) : Delivery :=
  renderTo {} columns rows sink

end Table

end Tabular
