import TradingSdk.Msgpack.BigEndian

namespace TradingSdk.Msgpack

/-- A MessagePack value. Strings keep their raw bytes, floats their bit patterns. A non-negative
integer in one of the signed forms is told apart where a reader minds the form; nothing is encoded
in that form. -/
inductive Msg where
  | nil
  | bool (b : Bool)
  | int (n : Int)
  | signed (n : Nat)
  | float32 (bits : UInt32)
  | float64 (bits : UInt64)
  | str (bytes : List UInt8)
  | bin (bytes : List UInt8)
  | arr (items : List Msg)
  | map (entries : List (Msg × Msg))
  | ext (tag : UInt8) (bytes : List UInt8)

/-- Shortest integer form. -/
def intBytes (n : Int) : List UInt8 :=
  if 0 ≤ n then
    if n < 2^7 then [UInt8.ofNat n.toNat]
    else if n < 2^8 then 0xcc :: beBytes 1 n.toNat
    else if n < 2^16 then 0xcd :: beBytes 2 n.toNat
    else if n < 2^32 then 0xce :: beBytes 4 n.toNat
    else 0xcf :: beBytes 8 n.toNat
  else if -2^5 ≤ n then [UInt8.ofNat (n + 2^8).toNat]
  else if -2^7 ≤ n then 0xd0 :: beBytes 1 (n + 2^8).toNat
  else if -2^15 ≤ n then 0xd1 :: beBytes 2 (n + 2^16).toNat
  else if -2^31 ≤ n then 0xd2 :: beBytes 4 (n + 2^32).toNat
  else 0xd3 :: beBytes 8 (n + 2^64).toNat

/-- A length header carries the low 32 bits of the length, as a `u32` cast leaves it. -/
def len32 (n : Nat) : Nat := n % 2^32

def strHeader (len : Nat) : List UInt8 :=
  let n := len32 len
  if n < 32 then [UInt8.ofNat (0xa0 + n)]
  else if n < 2^8 then 0xd9 :: beBytes 1 n
  else if n < 2^16 then 0xda :: beBytes 2 n
  else 0xdb :: beBytes 4 n

def binHeader (len : Nat) : List UInt8 :=
  let n := len32 len
  if n < 2^8 then 0xc4 :: beBytes 1 n
  else if n < 2^16 then 0xc5 :: beBytes 2 n
  else 0xc6 :: beBytes 4 n

def arrHeader (len : Nat) : List UInt8 :=
  let n := len32 len
  if n < 16 then [UInt8.ofNat (0x90 + n)]
  else if n < 2^16 then 0xdc :: beBytes 2 n
  else 0xdd :: beBytes 4 n

def mapHeader (len : Nat) : List UInt8 :=
  let n := len32 len
  if n < 16 then [UInt8.ofNat (0x80 + n)]
  else if n < 2^16 then 0xde :: beBytes 2 n
  else 0xdf :: beBytes 4 n

def extHeader (tag : UInt8) (len : Nat) : List UInt8 :=
  let n := len32 len
  if n = 1 then [0xd4, tag]
  else if n = 2 then [0xd5, tag]
  else if n = 4 then [0xd6, tag]
  else if n = 8 then [0xd7, tag]
  else if n = 16 then [0xd8, tag]
  else if n < 2^8 then 0xc7 :: beBytes 1 n ++ [tag]
  else if n < 2^16 then 0xc8 :: beBytes 2 n ++ [tag]
  else 0xc9 :: beBytes 4 n ++ [tag]

mutual
/-- The compact bytes of a value. -/
def Msg.encode : Msg → List UInt8
  | .nil => [0xc0]
  | .bool b => [if b then 0xc3 else 0xc2]
  | .int n => intBytes n
  | .signed n => intBytes n
  | .float32 bits => 0xca :: beBytes 4 bits.toNat
  | .float64 bits => 0xcb :: beBytes 8 bits.toNat
  | .str bytes => strHeader bytes.length ++ bytes
  | .bin bytes => binHeader bytes.length ++ bytes
  | .arr items => arrHeader items.length ++ encodeItems items
  | .map entries => mapHeader entries.length ++ encodeEntries entries
  | .ext tag bytes => extHeader tag bytes.length ++ bytes
def encodeItems : List Msg → List UInt8
  | [] => []
  | m :: ms => m.encode ++ encodeItems ms
def encodeEntries : List (Msg × Msg) → List UInt8
  | [] => []
  | (k, v) :: rest => k.encode ++ v.encode ++ encodeEntries rest
end

theorem encodeItems_append (ms ns : List Msg) :
    encodeItems (ms ++ ns) = encodeItems ms ++ encodeItems ns := by
  induction ms with
  | nil => rfl
  | cons m ms ih => simp [encodeItems, ih]

mutual
/-- A value that the format can carry: integers of at most 64 bits, lengths below 2^32. -/
def Msg.Fits : Msg → Prop
  | .int n => -2^63 ≤ n ∧ n < 2^64
  | .signed _ => False
  | .str bytes => bytes.length < 2^32
  | .bin bytes => bytes.length < 2^32
  | .arr items => items.length < 2^32 ∧ FitsItems items
  | .map entries => entries.length < 2^32 ∧ FitsEntries entries
  | .ext _ bytes => bytes.length < 2^32
  | _ => True
def FitsItems : List Msg → Prop
  | [] => True
  | m :: ms => m.Fits ∧ FitsItems ms
def FitsEntries : List (Msg × Msg) → Prop
  | [] => True
  | (k, v) :: rest => k.Fits ∧ v.Fits ∧ FitsEntries rest
end

mutual
/-- How deep containers are nested. -/
def Msg.depth : Msg → Nat
  | .arr items => depthItems items + 1
  | .map entries => depthEntries entries + 1
  | _ => 0
def depthItems : List Msg → Nat
  | [] => 0
  | m :: ms => max m.depth (depthItems ms)
def depthEntries : List (Msg × Msg) → Nat
  | [] => 0
  | (k, v) :: rest => max (max k.depth v.depth) (depthEntries rest)
end

example : (Msg.arr [.int 300, .str [97], .map [(.nil, .int (-1))]]).encode =
    [0x93, 0xcd, 1, 44, 0xa1, 97, 0x81, 0xc0, 0xff] := by decide

end TradingSdk.Msgpack
