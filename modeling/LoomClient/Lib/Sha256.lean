import LoomClient.Lib.Bytes

namespace LoomClient.Lib.Sha256

def rotr (x n : UInt32) : UInt32 := x >>> n ||| x <<< (32 - n)

def smallSigma0 (x : UInt32) : UInt32 := rotr x 7 ^^^ rotr x 18 ^^^ x >>> 3
def smallSigma1 (x : UInt32) : UInt32 := rotr x 17 ^^^ rotr x 19 ^^^ x >>> 10
def bigSigma0 (x : UInt32) : UInt32 := rotr x 2 ^^^ rotr x 13 ^^^ rotr x 22
def bigSigma1 (x : UInt32) : UInt32 := rotr x 6 ^^^ rotr x 11 ^^^ rotr x 25
def ch (x y z : UInt32) : UInt32 := x &&& y ^^^ ~~~x &&& z
def maj (x y z : UInt32) : UInt32 := x &&& y ^^^ x &&& z ^^^ y &&& z

def roundConstants : List UInt32 :=
  [0x428a2f98,0x71374491,0xb5c0fbcf,0xe9b5dba5,0x3956c25b,0x59f111f1,0x923f82a4,0xab1c5ed5,
    0xd807aa98,0x12835b01,0x243185be,0x550c7dc3,0x72be5d74,0x80deb1fe,0x9bdc06a7,0xc19bf174,
    0xe49b69c1,0xefbe4786,0x0fc19dc6,0x240ca1cc,0x2de92c6f,0x4a7484aa,0x5cb0a9dc,0x76f988da,
    0x983e5152,0xa831c66d,0xb00327c8,0xbf597fc7,0xc6e00bf3,0xd5a79147,0x06ca6351,0x14292967,
    0x27b70a85,0x2e1b2138,0x4d2c6dfc,0x53380d13,0x650a7354,0x766a0abb,0x81c2c92e,0x92722c85,
    0xa2bfe8a1,0xa81a664b,0xc24b8b70,0xc76c51a3,0xd192e819,0xd6990624,0xf40e3585,0x106aa070,
    0x19a4c116,0x1e376c08,0x2748774c,0x34b0bcb5,0x391c0cb3,0x4ed8aa4a,0x5b9cca4f,0x682e6ff3,
    0x748f82ee,0x78a5636f,0x84c87814,0x8cc70208,0x90befffa,0xa4506ceb,0xbef9a3f7,0xc67178f2]

structure Working where
  a : UInt32
  b : UInt32
  c : UInt32
  d : UInt32
  e : UInt32
  f : UInt32
  g : UInt32
  h : UInt32

def initial : Working :=
  ⟨0x6a09e667,0xbb67ae85,0x3c6ef372,0xa54ff53a,0x510e527f,0x9b05688c,0x1f83d9ab,0x5be0cd19⟩

def wordOf (b : Bytes) : UInt32 := UInt32.ofNat (fromBigEndian b)

def wordsOf : Nat → Bytes → List UInt32
  | 0,_ => []
  | n + 1,b => wordOf (b.take 4) :: wordsOf n (b.drop 4)

def extend : Nat → List UInt32 → List UInt32
  | 0,words => words
  | n + 1,words =>
    let word := smallSigma1 (words.getD 1 0) + words.getD 6 0 + smallSigma0 (words.getD 14 0) + words.getD 15 0
    extend n (word :: words)

def schedule (block : Bytes) : List UInt32 := (extend 48 (wordsOf 16 block).reverse).reverse

def round (x : Working) (constant word : UInt32) : Working :=
  let t1 := x.h + bigSigma1 x.e + ch x.e x.f x.g + constant + word
  let t2 := bigSigma0 x.a + maj x.a x.b x.c
  ⟨t1 + t2,x.a,x.b,x.c,x.d + t1,x.e,x.f,x.g⟩

def compress (x : Working) (block : Bytes) : Working :=
  let y := (roundConstants.zip (schedule block)).foldl (fun y (constant,word) => round y constant word) x
  ⟨x.a + y.a,x.b + y.b,x.c + y.c,x.d + y.d,x.e + y.e,x.f + y.f,x.g + y.g,x.h + y.h⟩

def bigEndian : Nat → Nat → Bytes
  | 0,_ => []
  | n + 1,value => bigEndian n (value / 256) ++ [UInt8.ofNat value]

def pad (message : Bytes) : Bytes :=
  message ++ 0x80 :: List.replicate ((119 - message.length % 64) % 64) 0 ++ bigEndian 8 (message.length * 8)

def compressAll : Nat → Working → Bytes → Working
  | 0,x,_ => x
  | n + 1,x,input => compressAll n (compress x (input.take 64)) (input.drop 64)

def output (x : Working) : Bytes := [x.a,x.b,x.c,x.d,x.e,x.f,x.g,x.h].flatMap fun word => bigEndian 4 word.toNat

end Sha256

-- `hashlib.sha256(message).digest()`
def sha256 (message : Bytes) : Bytes :=
  let padded := Sha256.pad message
  Sha256.output (Sha256.compressAll (padded.length / 64) Sha256.initial padded)

example : (sha256 [0x61,0x62,0x63]).take 4 = [0xba,0x78,0x16,0xbf] := by decide +kernel

end LoomClient.Lib
