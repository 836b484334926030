import Lockstep.Trace.Archive.Header
import Lockstep.Trace.Source

namespace Lockstep.Archive

def portion : Nat := 8192

def maxContent : Nat := 134217729

def blockLimit (content : Nat) : Nat := min content 131072

/-- What a frame delivers, and the bytes after it unless it is broken. -/
structure Delivery where
  bytes : List UInt8
  after : Except Fault (List UInt8)

abbrev Block := BlockHeader × List UInt8

def blocks? : List UInt8 → Option (List Block × List UInt8)
  | a :: b :: c :: rest =>
    let header := BlockHeader.ofBytes a b c
    if header.kind = .reserved ∨ rest.length < header.length then none
    else
      let block := (header, rest.take header.length)
      if header.isLast then some ([block], rest.drop header.length)
      else (blocks? (rest.drop header.length)).map fun (blocks, after) ↦ (block :: blocks, after)
  | _ => none
termination_by input => input.length
decreasing_by
  simp only [List.length_cons, List.length_drop]
  omega

def addBlock (content : List UInt8) (block : Block) : Except Fault (List UInt8) :=
  if block.1.kind = .compressed then .error .corruptFrame
  else if portion < content.length + block.1.size then .error .fullBuffer
  else .ok (content ++ block.1.content block.2)

def unpack (declared : Nat) (blocks : List Block) : Except Fault (List UInt8) :=
  match blocks.foldlM addBlock [] with
  | .error fault => .error fault
  | .ok content => if content.length = declared then .ok content else .error .corruptFrame

structure Unpacking where
  declared : Nat
  capacity : Nat
  decoded : Nat := 0
  /-- The end of the content so far, which waits for its portion to be complete. -/
  held : List UInt8 := []

namespace Unpacking

def refusal? (unpacking : Unpacking) (content : List UInt8) : Option Fault :=
  if unpacking.capacity < unpacking.decoded + content.length then some .fullBuffer
  else if blockLimit unpacking.declared < content.length then some .corruptFrame
  else none

def take (unpacking : Unpacking) (content : List UInt8) : List UInt8 × Unpacking :=
  let all := unpacking.held ++ content
  let decoded := unpacking.decoded + content.length
  if all.length ≤ portion then ([], { unpacking with decoded, held := all })
  else (all, { unpacking with decoded, held := [] })

end Unpacking

/-- Reads the rest of a frame block by block. A frame that is cut off delivers all that is there,
also of its last block. An empty last block ends a frame of any length. -/
def readBlocks (unpacking : Unpacking) : List UInt8 → Delivery
  | a :: b :: c :: rest =>
    let block := BlockHeader.ofBytes a b c
    let data := rest.take block.length
    let content := block.content data
    let after := rest.drop block.length
    if block.kind = .reserved ∨ blockLimit unpacking.declared < block.length then
      ⟨[], .error .corruptFrame⟩
    else if block.length = 0 then
      if block.isLast then ⟨unpacking.held, .ok after⟩ else readBlocks unpacking after
    else match unpacking.refusal? content with
      | some fault => ⟨[], .error fault⟩
      | none =>
        if data.length < block.length then ⟨unpacking.held ++ content, .error .incompleteFrame⟩
        else if block.kind = .compressed then ⟨[], .error .corruptFrame⟩
        else if block.isLast then
          if unpacking.decoded + content.length = unpacking.declared then
            ⟨unpacking.held ++ content, .ok after⟩
          else ⟨[], .error .corruptFrame⟩
        else
          let (bytes, unpacking) := unpacking.take content
          let later := readBlocks unpacking after
          { later with bytes := bytes ++ later.bytes }
  | _ => ⟨unpacking.held, .error .incompleteFrame⟩
termination_by input => input.length
decreasing_by
  all_goals simp only [List.length_cons, List.length_drop]
  all_goals omega

structure Buffers where
  block : Nat := 0
  content : Nat := 0

namespace Buffers

/-- Buffers are kept from frame to frame, and replaced when one of them is too short. -/
def grow (buffers needed : Buffers) : Buffers :=
  if buffers.block < needed.block ∨ buffers.content < needed.content then needed else buffers

def forFrame (content : Nat) : Buffers := ⟨max (blockLimit content) 4, content⟩

def forSkippable (length : Nat) : Buffers := ⟨4, min length 1088⟩

end Buffers

/-- The blocks of a frame that is read as a whole, since it is there to its end and its content fits
into one portion. -/
def whole? (declared : Nat) (input : List UInt8) : Option (List Block × List UInt8) :=
  if declared ≤ portion then blocks? input else none

def readFrame (buffers : Buffers) (input : List UInt8) : Delivery × Buffers :=
  match Opening.ofBytes input with
  | .incomplete => (⟨[], .error .incompleteFrame⟩, buffers)
  | .invalid fault => (⟨[], .error fault⟩, buffers)
  | .skippable length rest =>
    let after := if rest.length < length then .error .incompleteFrame else .ok (rest.drop length)
    (⟨[], after⟩, buffers.grow (.forSkippable length))
  | .frame declared rest =>
    match whole? declared rest with
    | some (blocks, after) =>
      match unpack declared blocks with
      | .error fault => (⟨[], .error fault⟩, buffers)
      | .ok content => (⟨content, .ok after⟩, buffers)
    | none =>
      if maxContent < declared then (⟨[], .error .oversizedFrame⟩, buffers)
      else
        let buffers := buffers.grow (.forFrame declared)
        (readBlocks { declared, capacity := buffers.content } rest, buffers)

theorem length_le_of_blocks {input after : List UInt8} {blocks : List Block}
    (h : blocks? input = some (blocks, after)) : after.length ≤ input.length := by
  fun_induction blocks? input generalizing blocks with
  | case1 => cases h
  | case2 a b c rest header _ block =>
    cases h
    simp only [List.length_drop, List.length_cons]
    omega
  | case3 a b c rest header _ _ _ =>
    rename_i ih
    obtain ⟨⟨tail, later⟩, hr, he⟩ := Option.map_eq_some_iff.1 h
    cases he
    have := ih hr
    simp only [List.length_drop, List.length_cons] at this ⊢
    omega
  | case4 => cases h

theorem length_le_of_whole {declared : Nat} {input after : List UInt8} {blocks : List Block}
    (h : whole? declared input = some (blocks, after)) : after.length ≤ input.length := by
  unfold whole? at h
  split at h
  · exact length_le_of_blocks h
  · cases h

theorem length_le_of_readBlocks {unpacking : Unpacking} {input after : List UInt8}
    (h : (readBlocks unpacking input).after = .ok after) : after.length ≤ input.length := by
  have drop_le (a b c : UInt8) (rest : List UInt8) (n : Nat) :
      (rest.drop n).length ≤ (a :: b :: c :: rest).length := by
    simp only [List.length_drop, List.length_cons]
    omega
  fun_induction readBlocks unpacking input with
  | case1 => cases h
  | case2 _ a b c rest block => exact Except.ok.inj h ▸ drop_le a b c rest block.length
  | case3 _ a b c rest block _ _ _ _ ih =>
    exact Nat.le_trans (ih h) (drop_le a b c rest block.length)
  | case4 => cases h
  | case5 => cases h
  | case6 => cases h
  | case7 _ a b c rest block => exact Except.ok.inj h ▸ drop_le a b c rest block.length
  | case8 => cases h
  | case9 _ a b c rest block _ _ _ _ _ _ _ _ _ _ _ _ _ ih =>
    exact Nat.le_trans (ih h) (drop_le a b c rest block.length)
  | case10 => cases h

theorem length_lt_of_readFrame {buffers : Buffers} {input after : List UInt8}
    (h : (readFrame buffers input).1.after = .ok after) : after.length < input.length := by
  unfold readFrame at h
  split at h
  · cases h
  · cases h
  · rename_i length rest start
    have hl := Opening.length_lt_of_skippable start
    simp only at h
    split at h
    · cases h
    · cases h
      simp only [List.length_drop]
      omega
  · rename_i declared rest start
    have hl := Opening.length_lt_of_frame start
    split at h
    · rename_i blocks behind whole
      have := length_le_of_whole whole
      split at h
      · cases h
      · cases h
        omega
    · split at h
      · cases h
      · exact Nat.lt_of_le_of_lt (length_le_of_readBlocks h) hl

def readFrames (buffers : Buffers) (input : List UInt8) : Source :=
  match _h : readFrame buffers input with
  | (⟨bytes, .error fault⟩, _) => ⟨bytes, some fault⟩
  | (⟨bytes, .ok []⟩, _) => ⟨bytes, none⟩
  | (⟨bytes, .ok (byte :: after)⟩, buffers) =>
    let later := readFrames buffers (byte :: after)
    { later with bytes := bytes ++ later.bytes }
termination_by input.length
decreasing_by exact length_lt_of_readFrame (congrArg (·.1.after) _h)

def decode (input : List UInt8) : Source := readFrames {} input

end Lockstep.Archive
