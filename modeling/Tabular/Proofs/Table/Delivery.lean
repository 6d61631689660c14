import Tabular.Proofs.Outcome
import Tabular.Sink

/-!
Writing a rendered table to a sink. Whatever the sink does, it holds a part of the table from its
front in the end, and the writing succeeds exactly if that is all of it. A table that cannot be
rendered does not reach the sink.
-/

namespace Tabular

namespace Sink

/-- A sink that holds so many bytes and is offered so many more takes none of them for this
cause. -/
inductive Refuses (sink : Sink) (held offered : Nat) : String → Prop where
  | failed {cause : String} (h : sink.reply held offered = .failed cause) :
      Refuses sink held offered cause
  | full (h : sink.reply held offered = .taken 0) :
      Refuses sink held offered "failed to write whole buffer"

/-- What may become of bytes that are written to a sink which has taken `held` before them. -/
structure Handles (sink : Sink) (held : Nat) (bytes : List UInt8) (delivery : Delivery) : Prop where
  /-- whenever the sink is called, there is something left to offer, up to the last byte -/
  offers : ∀ offered ∈ delivery.offers, offered ≠ [] ∧ offered <:+ bytes
  written : delivery.written <+: bytes
  complete_iff : delivery.failure? = none ↔ delivery.written = bytes
  /-- the sink refused the rest when it held just what it holds in the end -/
  failure : ∀ e, delivery.failure? = some e → ∃ cause, e = ⟨.writeFailed cause, none⟩ ∧
    sink.Refuses (held + delivery.written.length) (bytes.length - delivery.written.length) cause

variable {sink : Sink}

theorem handles_nil (held : Nat) : sink.Handles held [] ⟨[], [], none⟩ where
  offers := by simp
  written := List.prefix_rfl
  complete_iff := by simp
  failure := by simp

/-- The sink takes nothing of what it is offered, and the writing ends. -/
theorem handles_of_refuses {held : Nat} {bytes : List UInt8} (hSome : bytes ≠ []) {cause : String}
    (h : sink.Refuses held bytes.length cause) :
    sink.Handles held bytes ⟨[bytes], [], some { cause := .writeFailed cause }⟩ where
  offers := by simp [hSome]
  written := List.nil_prefix
  complete_iff := by simp [hSome.symm]
  failure := by
    intro e hFailure
    exact ⟨cause, (Option.some.inj hFailure).symm, h⟩

/-- The sink takes some bytes from the front, and the rest is written after them. -/
theorem Handles.cons {held count : Nat} {byte : UInt8} {rest : List UInt8} {delivery : Delivery}
    (h : sink.Handles (held + min (count + 1) (rest.length + 1)) (rest.drop count) delivery) :
    sink.Handles held (byte :: rest)
      ⟨(byte :: rest) :: delivery.offers, byte :: rest.take count ++ delivery.written,
        delivery.failure?⟩ where
  offers := by
    intro offered hMem
    rcases List.mem_cons.mp hMem with rfl | hLater
    · exact ⟨List.cons_ne_nil _ _, List.suffix_rfl⟩
    · obtain ⟨hSome, hSuffix⟩ := h.offers offered hLater
      exact ⟨hSome, (hSuffix.trans (List.drop_suffix count rest)).trans (List.suffix_cons _ _)⟩
  written := by
    obtain ⟨left, hLeft⟩ := h.written
    refine ⟨left, ?_⟩
    rw [List.append_assoc, hLeft, List.cons_append, List.take_append_drop]
  complete_iff := by
    have hBytes : byte :: rest.take count ++ rest.drop count = byte :: rest := by
      rw [List.cons_append, List.take_append_drop]
    rw [h.complete_iff, ← hBytes]
    exact List.append_right_inj _ |>.symm
  failure := by
    intro e hFailure
    obtain ⟨cause, hError, hRefuses⟩ := h.failure e hFailure
    have hHeld : held + min (count + 1) (rest.length + 1) + delivery.written.length =
        held + (byte :: rest.take count ++ delivery.written).length := by
      simp only [List.length_append, List.length_cons, List.length_take]
      omega
    have hOffered : (rest.drop count).length - delivery.written.length =
        (byte :: rest).length - (byte :: rest.take count ++ delivery.written).length := by
      simp only [List.length_append, List.length_cons, List.length_take, List.length_drop]
      omega
    rw [hHeld, hOffered] at hRefuses
    exact ⟨cause, hError, hRefuses⟩

theorem handles_offer (sink : Sink) (held : Nat) (bytes : List UInt8) :
    sink.Handles held bytes (sink.offer held bytes) := by
  fun_induction offer sink held bytes with
  | case1 held => exact handles_nil held
  | case2 held byte rest cause hReply =>
      exact handles_of_refuses (List.cons_ne_nil _ _) (.failed hReply)
  | case3 held byte rest hReply =>
      exact handles_of_refuses (List.cons_ne_nil _ _) (.full hReply)
  | case4 held byte rest count hReply delivery ih => exact ih.cons

/-- An interrupted offer takes nothing, so that it makes no difference but to have been made. -/
theorem handles_retry (sink : Sink) (interrupts : Nat) (bytes : List UInt8) :
    sink.Handles 0 bytes (sink.retry interrupts bytes) := by
  fun_induction retry sink interrupts bytes with
  | case1 interrupts => exact handles_nil 0
  | case2 bytes hSome => exact handles_offer sink 0 bytes
  | case3 bytes interrupts hSome delivery ih =>
      refine { ih with offers := ?_ }
      exact List.forall_mem_cons.mpr ⟨⟨hSome, List.suffix_rfl⟩, ih.offers⟩

end Sink

namespace Table

/-- What writing a table to a sink comes to, given how rendering it ended. -/
structure WritesAllOrPrefix (rendered : Except Error String) (sink : Sink) (delivery : Delivery) :
    Prop where
  /-- the sink is never called, and the error is that of rendering -/
  of_error : ∀ e, rendered = .error e →
    delivery.offers = [] ∧ delivery.written = [] ∧ delivery.failure? = some e
  isPrefix : ∀ text, rendered = .ok text → delivery.written <+: utf8 text
  complete_iff : ∀ text, rendered = .ok text →
    (delivery.failure? = none ↔ delivery.written = utf8 text)
  /-- the error concerns no cell, and gives the cause for which the sink refused the rest -/
  failure : ∀ text, rendered = .ok text → ∀ e, delivery.failure? = some e → ∃ cause,
    sink.Refuses delivery.written.length ((utf8 text).length - delivery.written.length) cause ∧
      e.kind = .io ∧ e.position = none ∧ e.message = "write failed: " ++ cause

theorem writesAllOrPrefix_renderTo (options : Options) (columns : List Column) (rows : List Row)
    (sink : Sink) :
    WritesAllOrPrefix (render options columns rows) sink (renderTo options columns rows sink) := by
  rw [renderTo]
  cases hRender : render options columns rows with
  | error raised =>
      constructor
      · rintro e ⟨⟩
        exact ⟨rfl, rfl, rfl⟩
      · rintro text ⟨⟩
      · rintro text ⟨⟩
      · rintro text ⟨⟩
  | ok table =>
      have hHandles := sink.handles_retry sink.interrupts (utf8 table)
      constructor
      · rintro e ⟨⟩
      · rintro text ⟨⟩
        exact hHandles.written
      · rintro text ⟨⟩
        exact hHandles.complete_iff
      · rintro text ⟨⟩ e hFailure
        obtain ⟨cause, rfl, hRefuses⟩ := hHandles.failure e hFailure
        rw [Nat.zero_add] at hRefuses
        exact ⟨cause, hRefuses, rfl, rfl, rfl⟩

/-- Writing a table to a sink is all or a prefix, however the sink takes the bytes and whether it
fails: if the table cannot be rendered, the sink is never called; else it holds a prefix of the
table's bytes, all of them exactly if no error is reported, and an error is that of the sink. -/
theorem sink_holds_all_or_prefix :
    (∀ (options : Options) (columns : List Column) (rows : List Row) (sink : Sink),
      WritesAllOrPrefix (render options columns rows) sink
        (renderTo options columns rows sink)) ∧
    ∀ (columns : List Column) (rows : List Row) (sink : Sink),
      WritesAllOrPrefix (render {} columns rows) sink (renderText columns rows sink) :=
  ⟨writesAllOrPrefix_renderTo, writesAllOrPrefix_renderTo {}⟩

/-- A sink that is interrupted twice, takes three bytes at a time and is full with seven holds seven
bytes of the table in the end. -/
theorem full_sink_holds_seven_bytes :
    let sink : Sink :=
      ⟨2, fun held offered =>
        if 7 ≤ held then .failed "sink full" else .taken (min 3 (min offered (7 - held)))⟩
    ∃ text, render {} [⟨"a", .decimal⟩] [] = .ok text ∧
      (renderText [⟨"a", .decimal⟩] [] sink).written <+: utf8 text ∧
      (renderText [⟨"a", .decimal⟩] [] sink).written = utf8 ",---.\n+" ∧
      (renderText [⟨"a", .decimal⟩] [] sink).offers.length = 6 ∧
      ∃ e, (renderText [⟨"a", .decimal⟩] [] sink).failure? = some e ∧ e.kind = .io ∧
        e.position = none ∧ e.message = "write failed: sink full" := by
  intro sink
  have hRender : render {} [⟨"a", .decimal⟩] [] = .ok ",---.\n+---+\n\x60---'\n" := by
    decide +kernel
  have hFailure : (renderText [⟨"a", .decimal⟩] [] sink).failure? =
      some ⟨.writeFailed "sink full", none⟩ := by decide +kernel
  have hAll := sink_holds_all_or_prefix.2 [⟨"a", .decimal⟩] [] sink
  obtain ⟨_, _, hKind, hPosition, -⟩ := hAll.failure _ hRender _ hFailure
  exact ⟨_, hRender, hAll.isPrefix _ hRender, by decide +kernel, by decide +kernel, _, hFailure,
    hKind, hPosition, rfl⟩

end Table

end Tabular
