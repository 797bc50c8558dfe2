import Mathlib.Data.List.Defs

/-!
# Addresses and the MAC derived from an IP

When IPAM hands an address to a container and the caller asked for no MAC, the plugin derives
the container's MAC from the first address with `IPAddrToHWAddr`: the prefix `0A:58` followed
by the four octets of an IPv4 address, and for anything else by the first four bytes of the
SHA-256 digest of the address's text. This file models what that function reads and returns,
as the Go library computes it:

* `OvsCni.IP.to4` – `net.IP.To4`, the 4-byte form of an address, present for a 4-byte address
  and for an IPv4-mapped 16-byte one;
* `OvsCni.IP.string` – `net.IP.String`, the text of an address (dotted decimal, or the
  compressed hexadecimal groups of RFC 5952);
* `OvsCni.sum256` – `sha256.Sum256`;
* `OvsCni.HardwareAddr.string` – `net.HardwareAddr.String`.

`OvsCni.ipAddrToHWAddr_of_to4` and `OvsCni.ipAddrToHWAddr_of_to4_eq_none` are the two
branches of the derivation; which of them applies is decided by `To4` of the address given,
and of nothing else.
-/

namespace OvsCni

/-- An IP address, `net.IP`: its bytes, 4 of them or 16. -/
abbrev IP := List UInt8

/-- A hardware address, `net.HardwareAddr`. -/
abbrev HardwareAddr := List UInt8

/-! ### `net.IP` -/

/-- `To4`: the 4-byte form of an address – the address itself when it has 4 bytes, its last
four bytes when it has 16 of which the first ten are zero and the next two `0xff` – and `nil`
otherwise. -/
def IP.to4 (ip : IP) : Option IP :=
  if ip.length = 4 then some ip
  else if ip.length = 16 ∧ (ip.take 10).all (· = 0) ∧ ip.getD 10 0 = 0xff ∧ ip.getD 11 0 = 0xff then
    some (ip.drop 12)
  else none

/-- The lowercase hexadecimal digits of a number, without leading zeros. -/
def hexDigits (n : Nat) : String := String.mk (Nat.toDigits 16 n)

/-- A byte as two lowercase hexadecimal digits. -/
def hexByte (b : UInt8) : String :=
  String.mk [Nat.digitChar (b.toNat / 16), Nat.digitChar (b.toNat % 16)]

/-- The eight 16-bit groups of a 16-byte address. -/
def IP.groups (ip : IP) : List Nat :=
  (List.range 8).map fun i => (ip.getD (2 * i) 0).toNat * 256 + (ip.getD (2 * i + 1) 0).toNat

/-- The longest run of at least two zero groups, the first of them on a tie, as the pair of
its first group and the group after it; `(255, 255)` when there is none. -/
def zeroRun (g : List Nat) : Nat × Nat :=
  (List.range 8).foldl (fun (zs, ze) i =>
    let j := i + ((g.drop i).takeWhile (· = 0)).length
    if j - i ≥ 2 ∧ j - i > ze - zs then (i, j) else (zs, ze)) (255, 255)

/-- The groups from the `i`-th on, separated by `:` and with the zero run written `::`. -/
def groupsText (g : List Nat) (zs ze : Nat) : Nat → Nat → String
  | 0, _ => ""
  | fuel + 1, i =>
    if i < 8 then
      if i = zs then
        if ze ≥ 8 then "::" else "::" ++ hexDigits (g.getD ze 0) ++ groupsText g zs ze fuel (ze + 1)
      else (if i > 0 then ":" else "") ++ hexDigits (g.getD i 0) ++ groupsText g zs ze fuel (i + 1)
    else ""

/-- `String`: the text of an address – dotted decimal for one with a 4-byte form, the
compressed groups otherwise, `?` and the hexadecimal bytes for a length that is neither 4 nor
16. -/
def IP.string (ip : IP) : String :=
  if ip.length = 0 then "<nil>"
  else if ip.length ≠ 4 ∧ ip.length ≠ 16 then "?" ++ String.join (ip.map hexByte)
  else match ip.to4 with
    | some p4 =>
      ".".intercalate (p4.map fun b => toString b.toNat)
    | none =>
      let g := ip.groups
      groupsText g (zeroRun g).1 (zeroRun g).2 9 0

/-- `String` of a hardware address: the bytes in lowercase hexadecimal, separated by `:`. -/
def HardwareAddr.string (a : HardwareAddr) : String := ":".intercalate (a.map hexByte)

/-! ### SHA-256 -/

/-- The round constants of SHA-256. -/
def sha256K : List UInt32 :=
  [0x428a2f98, 0x71374491, 0xb5c0fbcf, 0xe9b5dba5, 0x3956c25b, 0x59f111f1, 0x923f82a4, 0xab1c5ed5,
   0xd807aa98, 0x12835b01, 0x243185be, 0x550c7dc3, 0x72be5d74, 0x80deb1fe, 0x9bdc06a7, 0xc19bf174,
   0xe49b69c1, 0xefbe4786, 0x0fc19dc6, 0x240ca1cc, 0x2de92c6f, 0x4a7484aa, 0x5cb0a9dc, 0x76f988da,
   0x983e5152, 0xa831c66d, 0xb00327c8, 0xbf597fc7, 0xc6e00bf3, 0xd5a79147, 0x06ca6351, 0x14292967,
   0x27b70a85, 0x2e1b2138, 0x4d2c6dfc, 0x53380d13, 0x650a7354, 0x766a0abb, 0x81c2c92e, 0x92722c85,
   0xa2bfe8a1, 0xa81a664b, 0xc24b8b70, 0xc76c51a3, 0xd192e819, 0xd6990624, 0xf40e3585, 0x106aa070,
   0x19a4c116, 0x1e376c08, 0x2748774c, 0x34b0bcb5, 0x391c0cb3, 0x4ed8aa4a, 0x5b9cca4f, 0x682e6ff3,
   0x748f82ee, 0x78a5636f, 0x84c87814, 0x8cc70208, 0x90befffa, 0xa4506ceb, 0xbef9a3f7, 0xc67178f2]

/-- The initial hash value of SHA-256. -/
def sha256H : List UInt32 :=
  [0x6a09e667, 0xbb67ae85, 0x3c6ef372, 0xa54ff53a, 0x510e527f, 0x9b05688c, 0x1f83d9ab, 0x5be0cd19]

/-- Rotation right of a 32-bit word. -/
def rotr (x : UInt32) (n : UInt32) : UInt32 := (x >>> n) ||| (x <<< (32 - n))

/-- The message padded to a multiple of 64 bytes: a one bit, zeros, and the bit length on
eight bytes. -/
def sha256Pad (msg : List UInt8) : List UInt8 :=
  let len := msg.length
  msg ++ [0x80] ++ List.replicate ((64 - (len + 9) % 64) % 64) 0 ++
    (List.range 8).reverse.map fun i => (len * 8 / Nat.pow 2 (8 * i)).toUInt8

/-- A big-endian word from four bytes. -/
def word (b : List UInt8) : UInt32 :=
  b.foldl (fun w x => (w <<< 8) ||| x.toUInt32) 0

/-- The message schedule of a block. -/
def sha256Schedule (block : List UInt8) : List UInt32 :=
  let w := (block.toChunks 4).map word
  (List.range 48).foldl (fun w t =>
    let x := w.getD (t + 1) 0
    let y := w.getD (t + 14) 0
    let s0 := rotr x 7 ^^^ rotr x 18 ^^^ (x >>> 3)
    let s1 := rotr y 17 ^^^ rotr y 19 ^^^ (y >>> 10)
    w ++ [s1 + w.getD (t + 9) 0 + s0 + w.getD t 0]) w

/-- One round of the compression function on the working variables. -/
def sha256Round (v : List UInt32) (kw : UInt32 × UInt32) : List UInt32 :=
  match v with
  | [a, b, c, d, e, f, g, h] =>
    let t1 := h + (rotr e 6 ^^^ rotr e 11 ^^^ rotr e 25) + ((e &&& f) ^^^ (~~~e &&& g)) + kw.1 + kw.2
    let t2 := (rotr a 2 ^^^ rotr a 13 ^^^ rotr a 22) + ((a &&& b) ^^^ (a &&& c) ^^^ (b &&& c))
    [t1 + t2, a, b, c, d + t1, e, f, g]
  | v => v

/-- The hash value after one more block. -/
def sha256Block (hv : List UInt32) (block : List UInt8) : List UInt32 :=
  List.zipWith (· + ·) hv ((sha256K.zip (sha256Schedule block)).foldl sha256Round hv)

/-- `sha256.Sum256`: the 32-byte digest. -/
def sum256 (msg : List UInt8) : List UInt8 :=
  ((sha256Pad msg).toChunks 64).foldl sha256Block sha256H |>.flatMap fun w =>
    [(w >>> 24).toUInt8, (w >>> 16).toUInt8, (w >>> 8).toUInt8, w.toUInt8]

/-! ### The derived MAC -/

/-- `IPAddrToHWAddr`: `0A:58` followed by the four bytes of the 4-byte form of the address,
or, when it has none, by the first four bytes of the SHA-256 digest of its text. -/
def ipAddrToHWAddr (ip : IP) : HardwareAddr :=
  match ip.to4 with
  | some ip4 => [0x0A, 0x58, ip4.getD 0 0, ip4.getD 1 0, ip4.getD 2 0, ip4.getD 3 0]
  | none =>
    let hash := sum256 ip.string.toUTF8.data.toList
    [0x0A, 0x58, hash.getD 0 0, hash.getD 1 0, hash.getD 2 0, hash.getD 3 0]

theorem IP.length_of_to4 {ip b : IP} (h : ip.to4 = some b) : b.length = 4 := by
  unfold IP.to4 at h
  split at h
  · cases h; assumption
  · split at h
    · cases h; simp [*]
    · cases h

theorem sha256Round_length {v : List UInt32} (h : v.length = 8) (kw : UInt32 × UInt32) :
    (sha256Round v kw).length = 8 := by
  unfold sha256Round; split <;> simp_all

theorem foldl_sha256Round_length (l : List (UInt32 × UInt32)) {hv : List UInt32}
    (h : hv.length = 8) : (l.foldl sha256Round hv).length = 8 := by
  induction l generalizing hv with
  | nil => exact h
  | cons kw l ih => exact ih (sha256Round_length h kw)

theorem foldl_sha256Block_length (blocks : List (List UInt8)) {hv : List UInt32}
    (h : hv.length = 8) : (blocks.foldl sha256Block hv).length = 8 := by
  induction blocks generalizing hv with
  | nil => exact h
  | cons b blocks ih =>
    exact ih (by simp [sha256Block, foldl_sha256Round_length _ h, h])

/-- The digest has 32 bytes. -/
theorem sum256_length (msg : List UInt8) : (sum256 msg).length = 32 := by
  have h8 : (((sha256Pad msg).toChunks 64).foldl sha256Block sha256H).length = 8 :=
    foldl_sha256Block_length _ rfl
  rw [sum256]
  generalize List.foldl sha256Block sha256H ((sha256Pad msg).toChunks 64) = ws at h8 ⊢
  have : ∀ ws : List UInt32, (ws.flatMap fun w : UInt32 =>
      [(w >>> 24).toUInt8, (w >>> 16).toUInt8, (w >>> 8).toUInt8, w.toUInt8]).length =
        4 * ws.length := fun ws => by
    induction ws with
    | nil => rfl
    | cons w ws ih => simp [ih]; omega
  rw [this, h8]

/-- **The IPv4 branch**: an address with a 4-byte form gives `0A:58` and those four bytes. -/
theorem ipAddrToHWAddr_of_to4 {ip b : IP} (h : ip.to4 = some b) :
    ipAddrToHWAddr ip = [0x0A, 0x58] ++ b := by
  have hb := IP.length_of_to4 h
  match b, hb with
  | [x, y, z, w], _ => simp [ipAddrToHWAddr, h]

/-- **The hash branch**: an address without a 4-byte form gives `0A:58` and the first four
bytes of the SHA-256 digest of its text. -/
theorem ipAddrToHWAddr_of_to4_eq_none {ip : IP} (h : ip.to4 = none) :
    ipAddrToHWAddr ip = [0x0A, 0x58] ++ (sum256 ip.string.toUTF8.data.toList).take 4 := by
  have hl := sum256_length ip.string.toUTF8.data.toList
  simp only [ipAddrToHWAddr, h]
  generalize sum256 ip.string.toUTF8.data.toList = hash at hl ⊢
  match hash, hl with
  | x :: y :: z :: w :: _, _ => rfl

end OvsCni
