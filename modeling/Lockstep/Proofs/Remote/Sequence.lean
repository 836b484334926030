import Lockstep.Proofs.Remote.Flaws

namespace Lockstep.Frame

/-- A text to be framed, and how many acknowledgements come before its frame. -/
structure Delivery where
  acks : Nat
  text : String
  deriving DecidableEq, Repr

namespace Delivery

def bytes (delivery : Delivery) : List UInt8 :=
  List.replicate delivery.acks plus ++ Text.utf8 (ofText delivery.text)

def stream (deliveries : List Delivery) : List UInt8 :=
  deliveries.flatMap bytes

end Delivery

/-- What is left of a source when it has been read so many times. -/
def afterReads (source : Source) : Nat → Source
  | 0 => source
  | n + 1 => afterReads (read source).2 n

variable {source : Source} {failure : Option Fault} {text : String} {deliveries : List Delivery}
  {delivery : Delivery}

theorem read_end (failure : Option Fault) :
    read ⟨[], failure⟩ = (.error (ending failure), ⟨[], failure⟩) :=
  rfl

theorem read_stream_cons (hf : Fits delivery.text) (deliveries : List Delivery)
    (failure : Option Fault) :
    read ⟨Delivery.stream (delivery :: deliveries), failure⟩ =
      (.ok delivery.text, ⟨Delivery.stream deliveries, failure⟩) := by
  rw [Delivery.stream, List.flatMap_cons, Delivery.bytes, List.append_assoc]
  exact read_ofText delivery.acks hf _ failure

theorem afterReads_stream (hf : ∀ delivery ∈ deliveries, Fits delivery.text) (n : Nat) :
    afterReads ⟨Delivery.stream deliveries, failure⟩ n =
      ⟨Delivery.stream (deliveries.drop n), failure⟩ := by
  induction n generalizing deliveries with
  | zero => rw [afterReads, List.drop_zero]
  | succ n ih =>
    cases deliveries with
    | nil =>
      have hn := @ih [] hf
      rw [List.drop_nil] at hn ⊢
      rw [afterReads, Delivery.stream, List.flatMap_nil, read_end]
      exact hn
    | cons delivery deliveries =>
      rw [List.forall_mem_cons] at hf
      rw [afterReads, read_stream_cons hf.1, List.drop_succ_cons]
      exact ih hf.2

theorem read_afterReads_stream (hf : ∀ delivery ∈ deliveries, Fits delivery.text) {i : Nat}
    (hi : i < deliveries.length) :
    read (afterReads ⟨Delivery.stream deliveries, failure⟩ i) =
      (.ok deliveries[i].text, ⟨Delivery.stream (deliveries.drop (i + 1)), failure⟩) := by
  rw [afterReads_stream hf, List.drop_eq_getElem_cons hi]
  exact read_stream_cons (hf _ (List.getElem_mem hi)) _ failure

theorem takes_of_read {taken rest : List UInt8} {result : Except SessionError String}
    (h : read ⟨taken ++ rest, failure⟩ = (result, ⟨rest, failure⟩)) :
    Takes ⟨taken ++ rest, failure⟩ taken.length result := by
  refine ⟨?_, ?_⟩
  · rw [List.length_append]
    exact Nat.le_add_right ..
  · rw [h, List.drop_left]

theorem takes_afterReads_stream (hf : ∀ delivery ∈ deliveries, Fits delivery.text) {i : Nat}
    (hi : i < deliveries.length) :
    Takes (afterReads ⟨Delivery.stream deliveries, failure⟩ i) deliveries[i].bytes.length
      (.ok deliveries[i].text) := by
  have hr : read (afterReads ⟨_, failure⟩ i) = _ := read_afterReads_stream hf hi
  rw [afterReads_stream hf, List.drop_eq_getElem_cons hi, Delivery.stream,
    List.flatMap_cons] at hr ⊢
  exact takes_of_read hr

theorem read_eq_ok_text_iff (text : String) (acks : Nat) (unread : List UInt8)
    (failure : Option Fault) :
    (read ⟨List.replicate acks plus ++ (Text.utf8 (ofText text) ++ unread), failure⟩).1 = .ok text ↔
      Fits text := by
  constructor
  · exact fits_of_read
  · intro hf
    rw [read_ofText acks hf]

/-- Texts that fit, and no others, are read back from their frames, whatever acknowledgements come
before each frame: in order, each read taking one delivery, until the stream is found closed. -/
theorem stream_reads_back (deliveries : List Delivery) :
    ((∀ delivery ∈ deliveries, Fits delivery.text) ↔
      (∀ i (hi : i < deliveries.length),
        Takes (afterReads ⟨Delivery.stream deliveries, none⟩ i) deliveries[i].bytes.length
          (.ok deliveries[i].text)) ∧
      read (afterReads ⟨Delivery.stream deliveries, none⟩ deliveries.length) =
        (.error (.protocol "connection closed by stub"), ⟨[], none⟩)) ∧
    ∀ text acks unread failure,
      (read ⟨List.replicate acks plus ++ (Text.utf8 (ofText text) ++ unread), failure⟩).1 =
        .ok text ↔ Fits text := by
  refine ⟨⟨?_, ?_⟩, read_eq_ok_text_iff⟩
  · intro hf
    refine ⟨fun i hi ↦ takes_afterReads_stream hf hi, ?_⟩
    rw [afterReads_stream hf, List.drop_length]
    exact read_end none
  · intro h delivery hd
    obtain ⟨i, hi, rfl⟩ := List.getElem_of_mem hd
    have hr := (h.1 i hi).2
    exact fits_of_read (congrArg Prod.fst hr)

/-- The frame of a text with an end mark in it may be read, but as another text. -/
example : (read ⟨Text.utf8 (ofText "a#61"), none⟩).1 = .ok "a" := by cbv

end Lockstep.Frame
