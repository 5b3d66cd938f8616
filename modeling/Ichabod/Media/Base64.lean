import Mathlib.Logic.Function.Basic
import Ichabod.Lib.CString
import Ichabod.Zmq.Receive

/-! The two-pass base64 decoder. -/

namespace Ichabod

/-- `base64_table`, without its terminator. -/
def base64Table : Bytes :=
  CString.ascii "ABCDEFGHIJKLMNOPQRSTUVWXYZabcdefghijklmnopqrstuvwxyz0123456789+/"

/-- Stores the place of each character, counted from `start`, under that character. -/
def fillTable (table : UInt8 → UInt8) (start : Nat) : Bytes → UInt8 → UInt8
  | [] => table
  | char :: rest =>
    fillTable (Function.update table char (UInt8.ofNat start)) (start + 1) rest

/-- `dtable`, which holds 0x80 for every character that is passed over. -/
def dtable : UInt8 → UInt8 :=
  Function.update (fillTable (fun _ => 0x80) 0 base64Table) 61 0

/-- The loop of `base64_decode` that collects groups of four, where `none` is invalid padding. -/
def decodeLoop : Bytes → Bytes → Nat → Bytes → Option Bytes
  | [], _, _, out => some out
  | char :: src, block, pad, out =>
    let tmp := dtable char
    if tmp = 0x80 then decodeLoop src block pad out
    else
      let pad := if char = 61 then pad + 1 else pad
      match block with
      | [block0, block1, block2] =>
        let out := out ++ [(block0 <<< 2) ||| (block1 >>> 4), (block1 <<< 4) ||| (block2 >>> 2),
          (block2 <<< 6) ||| tmp]
        if pad ≠ 0 then
          -- The rest of the text is not looked at.
          if pad = 1 then some (out.take (out.length - 1))
          else if pad = 2 then some (out.take (out.length - 2))
          else none
        else decodeLoop src [] pad out
      | _ => decodeLoop src (block ++ [tmp]) pad out

/-- `base64_decode`, where `none` is a NULL result and an allocation always succeeds. -/
def base64Decode (src : Bytes) (len : Nat) : Option Bytes :=
  let src := src.take len
  let count := src.countP fun char => dtable char ≠ 0x80
  if count = 0 ∨ count % 4 ≠ 0 then none else decodeLoop src [] 0 []

end Ichabod
