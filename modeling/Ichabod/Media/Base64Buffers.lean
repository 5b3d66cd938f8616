import Ichabod.Lib.CellWriter
import Ichabod.Media.Base64

/-! The base64 encoder and decoder, down to the buffers that they write. -/

namespace Ichabod

/-- How a call of one of the two functions ends. -/
inductive CodecResult where
  /-- The result is NULL. -/
  | null
  /-- A buffer was accessed outside its cells. -/
  | outside
  /-- The result is the allocated buffer, of which `*out_len` bytes count. -/
  | buffer (cells : Bytes) (outLen : Nat)
deriving DecidableEq

/-- A block of that many cells, whatever they hold. -/
abbrev Cells (size : Nat) : Type :=
  { cells : Bytes // cells.length = size }

/-- The result at a pointer, if there is one. -/
def CodecResult.ofWriter : Option (CellWriter UInt8) → CodecResult
  | none => .outside
  | some pos => .buffer pos.cells pos.pos

/-- The bytes that `base64_encode` allocates, in the arithmetic of `size_t`. -/
def encodedRoom (len : UInt64) : UInt64 :=
  let olen := len * 4 / 3 + 4
  let olen := olen + olen / 72
  olen + 1

/-- `base64_table[index]`, where the entry behind the digits is the terminator. -/
def base64TableAt (index : UInt8) : UInt8 :=
  base64Table.getD index.toNat 0

/-- What `base64_encode` writes behind its loop, for one or two bytes that the loop has left. -/
def encodeRest (input : Bytes) (pos : CellWriter UInt8) : Option (CellWriter UInt8) :=
  match input with
  | [] => some pos
  | [in0] => do
    let pos ← pos.put (base64TableAt (in0 >>> 2))
    let pos ← pos.putAll [base64TableAt ((in0 &&& 0x03) <<< 4), 61]
    pos.put 61
  | in0 :: in1 :: _ => do
    let pos ← pos.put (base64TableAt (in0 >>> 2))
    let pos ← pos.putAll [base64TableAt (((in0 &&& 0x03) <<< 4) ||| (in1 >>> 4)),
      base64TableAt ((in1 &&& 0x0f) <<< 2)]
    pos.put 61

/-- The loop of `base64_encode` and what follows it, up to the terminator. -/
def encodeLoop : Bytes → Nat → CellWriter UInt8 → Option (CellWriter UInt8)
  | in0 :: in1 :: in2 :: input, lineLen, pos => do
    let pos ← pos.putAll [base64TableAt (in0 >>> 2),
      base64TableAt (((in0 &&& 0x03) <<< 4) ||| (in1 >>> 4)),
      base64TableAt (((in1 &&& 0x0f) <<< 2) ||| (in2 >>> 6)), base64TableAt (in2 &&& 0x3f)]
    let lineLen := lineLen + 4
    if 72 ≤ lineLen then
      let pos ← pos.put 10
      encodeLoop input 0 pos
    else encodeLoop input lineLen pos
  | input, lineLen, pos => do
    let pos ← encodeRest input pos
    let lineLen := if input.length ≠ 0 then lineLen + 4 else lineLen
    if lineLen ≠ 0 then pos.put 10 else some pos

/-- `base64_encode`, where `malloc` gives a block with any contents, or NULL. -/
def base64Encode (malloc : (size : Nat) → Option (Cells size)) (len : UInt64)
    (src : Cells len.toNat) : CodecResult :=
  let olen := encodedRoom len
  if olen < len then .null
  else
    match malloc olen.toNat with
    | none => .null
    | some out =>
      match encodeLoop src.val 0 (.fresh out.val) with
      | none => .outside
      | some pos =>
        -- The terminator is not counted in `*out_len`.
        match pos.put 0 with
        | none => .outside
        | some ended => .buffer ended.cells pos.pos

/-- The bytes that `base64_decode` allocates, for the count of its first pass. -/
def decodedRoom (count : Nat) : Nat :=
  count / 4 * 3

/-- The loop of `base64_decode` that collects groups of four in `block[4]`. -/
def decodeInto : Bytes → CellWriter UInt8 → Nat → CellWriter UInt8 → CodecResult
  | [], _, _, pos => .buffer pos.cells pos.pos
  | char :: src, block, pad, pos =>
    let tmp := dtable char
    if tmp = 0x80 then decodeInto src block pad pos
    else
      let pad := if char = 61 then pad + 1 else pad
      match block.put tmp with
      | none => .outside
      | some block =>
        if block.pos = 4 then
          match block.cells with
          | block0 :: block1 :: block2 :: block3 :: _ =>
            match pos.putAll [(block0 <<< 2) ||| (block1 >>> 4),
                (block1 <<< 4) ||| (block2 >>> 2), (block2 <<< 6) ||| block3] with
            | none => .outside
            | some pos =>
              if pad ≠ 0 then
                if pad = 1 then .ofWriter (pos.back 1)
                else if pad = 2 then .ofWriter (pos.back 2)
                else .null
              else decodeInto src block.rewind pad pos
          | _ => .outside
        else decodeInto src block pad pos

/-- `base64_decode` with the two buffers that it writes, of which it allocates one. -/
def base64DecodeInto (malloc : (size : Nat) → Option (Cells size)) (block : Cells 4) (src : Bytes)
    (len : Nat) : CodecResult :=
  let src := src.take len
  let count := src.countP fun char => dtable char ≠ 0x80
  if count = 0 ∨ count % 4 ≠ 0 then .null
  else
    match malloc (decodedRoom count) with
    | none => .null
    | some out => decodeInto src (.fresh block.val) 0 (.fresh out.val)

end Ichabod
