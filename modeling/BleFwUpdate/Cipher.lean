import Mathlib.Tactic.Common

/-! AES-GCM as both sides use it, the evolution of the initialization vector, and
the random byte generator of `rand_generator.c`. -/

namespace BleFwUpdate

abbrev Iv := Vector UInt8 12

def initialIv : Iv :=
  #v[0x61, 0x1c, 0xe6, 0xf9, 0xa6, 0x88, 0x07, 0x50, 0xde, 0x7d, 0xa6, 0xcb]

/-- AES-GCM under the fixed `Key`: the counter-mode cipher, and the authentication tag
of an initialization vector, additional data and a ciphertext. The library on the
device (cmox) and the one on the host (PyCryptodome) are both outside the repository. -/
structure AesGcm where
  ctr : Iv → List UInt8 → List UInt8
  mac : Iv → List UInt8 → List UInt8 → List UInt8

/-- The documented behaviour of AES-GCM with `AES_TAG_LEN` tags that both sides rely on:
the keystream is the same in both directions. -/
structure AesGcm.Lawful (gcm : AesGcm) : Prop where
  ctr_ctr : ∀ iv message, gcm.ctr iv (gcm.ctr iv message) = message
  length_ctr : ∀ iv message, (gcm.ctr iv message).length = message.length
  length_mac : ∀ iv addData message, (gcm.mac iv addData message).length = 4

def AesGcm.encrypt (gcm : AesGcm) (iv : Iv) (addData plaintext : List UInt8) :
    List UInt8 × List UInt8 :=
  let ciphertext := gcm.ctr iv plaintext
  (ciphertext, gcm.mac iv addData ciphertext)

def AesGcm.decrypt (gcm : AesGcm) (iv : Iv) (addData ciphertext tag : List UInt8) :
    Option (List UInt8) :=
  -- The tag is checked against the received one, whatever the length of that is.
  if gcm.mac iv addData ciphertext = tag then some (gcm.ctr iv ciphertext) else none

theorem AesGcm.Lawful.decrypt_encrypt {gcm : AesGcm} (lawful : gcm.Lawful) (iv : Iv)
    (addData plaintext : List UInt8) :
    gcm.decrypt iv addData (gcm.encrypt iv addData plaintext).1
      (gcm.encrypt iv addData plaintext).2 = some plaintext := by
  simp [AesGcm.decrypt, AesGcm.encrypt, lawful.ctr_ctr]

/-- The cipher with the given keystreams (zero bytes past their ends) and tags (zero bytes
where none is given): AES-GCM on as many inputs as the tables are filled in for. -/
def AesGcm.ofTables (keystreams : List (Iv × List UInt8))
    (tags : List ((Iv × List UInt8 × List UInt8) × Vector UInt8 4)) : AesGcm where
  ctr iv message :=
    message.mapIdx fun index byte => byte ^^^ ((keystreams.lookup iv).getD []).getD index 0
  mac iv addData message := ((tags.lookup (iv, addData, message)).getD #v[0, 0, 0, 0]).toList

theorem AesGcm.lawful_ofTables (keystreams : List (Iv × List UInt8))
    (tags : List ((Iv × List UInt8 × List UInt8) × Vector UInt8 4)) :
    (AesGcm.ofTables keystreams tags).Lawful where
  ctr_ctr iv message := by
    apply List.ext_getElem
    · simp [AesGcm.ofTables]
    · intro i _ _
      simp only [AesGcm.ofTables, List.getElem_mapIdx]
      rw [UInt8.xor_assoc, UInt8.xor_self, UInt8.xor_zero]
  length_ctr iv message := by simp [AesGcm.ofTables]
  length_mac iv addData message := by simp [AesGcm.ofTables]

/-- AES-GCM under `Key` on the messages of a session of one packet with timer seed 0x1234. -/
def AesGcm.sample : AesGcm :=
  let iv : Iv := #v[0x61, 0x1e, 0xe6, 0xfd, 0xa6, 0x88, 0x07, 0x50, 0xde, 0x82, 0xa6, 0xcb]
  .ofTables
    [(initialIv, [0x6f, 0x57, 0x3d, 0x60, 0x69]),
      (iv, [0x46, 0x9d, 0x21, 0x01, 0x2e, 0x50, 0x14, 0xde, 0x3b, 0xba, 0xfb, 0x81, 0x60, 0x31,
        0xfd, 0x46])]
    [((initialIv, [0x00], [0x6f, 0x57, 0x09, 0x72, 0xfc]), #v[0x36, 0x9a, 0x07, 0x72]),
      ((iv, [0xc0], [0x47, 0x9f, 0x22, 0x05, 0x2b, 0x56, 0x13, 0xd6, 0x32, 0xb0, 0xf0, 0x8d, 0x6d,
        0x3f, 0xf2]), #v[0x80, 0xd5, 0xde, 0x1e]),
      ((iv, [0xc0], List.replicate 15 0xaa), #v[0xfe, 0x88, 0xcb, 0xa3]),
      ((iv, [0x00], [0x46, 0x9c, 0x93, 0xa9, 0xcd]), #v[0x3b, 0xce, 0xb5, 0x8f]),
      ((iv, [0x01], [0x46, 0x9c, 0x93, 0xa9, 0xcd]), #v[0x8d, 0x35, 0x2e, 0xaa])]

/-! Longer sessions, their bytes written as numbers. -/

def bigEndian (length number : Nat) : Vector UInt8 length :=
  Vector.ofFn fun index => UInt8.ofNat (number >>> (8 * (length - 1 - index.val)))

def keystreamEntry (iv number : Nat) : Iv × List UInt8 :=
  (bigEndian 12 iv, (bigEndian 16 number).toList)

def tagEntry (iv : Nat) (addData : UInt8) (length ciphertext tag : Nat) :
    (Iv × List UInt8 × List UInt8) × Vector UInt8 4 :=
  ((bigEndian 12 iv, [addData], (bigEndian length ciphertext).toList), bigEndian 4 tag)

/-- AES-GCM under `Key` on the messages of a session of 17 packets with timer seed 0x1234, where
packet `k` of the first window holds 15 bytes `k + 1` and its response is asked for again, and
the last packet is forged; and of a session of one packet with seed 0x4321 that follows one which
broke off after its first packet. -/
def AesGcm.longSample : AesGcm :=
  .ofTables
    [keystreamEntry 0x611ce6f9a6880750de7da6cb 0x6f573d6069ee34ecfc081419055b3472,
      keystreamEntry 0x611ee6fda6880750de82a6cb 0x469d21012e5014de3bbafb816031fd46,
      keystreamEntry 0x6120e601a6880750de87a6cb 0x0833e265819ff577d34f43e22c718cde,
      keystreamEntry 0x6122e605a6880750de8ca6cb 0x1795eea5c34eda8fb3381a9e310528b4,
      keystreamEntry 0x6124e609a6880750de91a6cb 0xf726f4aba7bf058d6160b27b43d91af0,
      keystreamEntry 0x6126e60da6880750de96a6cb 0x124e2210f055102a179cd74cd87ff7dc,
      keystreamEntry 0x6128e611a6880750de9ba6cb 0x642cfb399b65de1428c1460ab0c15346,
      keystreamEntry 0x612ae615a6880750dea0a6cb 0xd1e862ae7e40acbcacacbe188d3d2259,
      keystreamEntry 0x612ce619a6880750dea5a6cb 0x2768a14b41ebe2f8c19c2bcc8ac36c99,
      keystreamEntry 0x612ee61da6880750deaaa6cb 0x8ee64496eeb7bc79594bf99cffc27aa1,
      keystreamEntry 0x6130e621a6880750deafa6cb 0xc34906c71b9680824e194d1372446594,
      keystreamEntry 0x6132e625a6880750deb4a6cb 0x4f036aa4c1c55b3b8a8a46a57c0d9c5f,
      keystreamEntry 0x6134e629a6880750deb9a6cb 0xf7146ae5e53786b56e61f0b7e383ed47,
      keystreamEntry 0x6136e62da6880750debea6cb 0x94a354d0373a3bd16330febe680c3431,
      keystreamEntry 0x6138e631a6880750dec3a6cb 0x0095f3626963bb64bf2cb71a477a7215,
      keystreamEntry 0x613ae635a6880750dec8a6cb 0x1e31a9ce3d0756d0a19639088ef7d795,
      keystreamEntry 0x613ce639a6880750decda6cb 0x2e934c9e34f33cee27fe21d709d8f422,
      keystreamEntry 0x613ce939a6880750decdaecd 0xfc88219d79251b593ff3773c69997ec4,
      keystreamEntry 0x611eeefda9880750de82a6cb 0xd338288a19041bf5f8cc050a7b1190df]
    [tagEntry 0x611ce6f9a6880750de7da6cb 0x00 5 0x6f570972fc 0x369a0772,
      tagEntry 0x611ee6fda6880750de82a6cb 0xc0 15 0x479c20002f5115df3abbfa806130fc 0x4abcf477,
      tagEntry 0x6120e601a6880750de87a6cb 0xc1 15 0x0a31e067839df775d14d41e02e738e 0x54876fa3,
      tagEntry 0x6122e605a6880750de8ca6cb 0xc2 15 0x1496eda6c04dd98cb03b199d32062b 0xdba1854d,
      tagEntry 0x6124e609a6880750de91a6cb 0xc3 15 0xf322f0afa3bb01896564b67f47dd1e 0xa2335d30,
      tagEntry 0x6126e60da6880750de96a6cb 0xc4 15 0x174b2715f550152f1299d249dd7af2 0xed33714e,
      tagEntry 0x6128e611a6880750de9ba6cb 0xc5 15 0x622afd3f9d63d8122ec7400cb6c755 0x95da1cee,
      tagEntry 0x612ae615a6880750dea0a6cb 0xc6 15 0xd6ef65a97947abbbababb91f8a3a25 0x0b02c793,
      tagEntry 0x612ce619a6880750dea5a6cb 0xc7 15 0x2f60a94349e3eaf0c99423c482cb64 0x10ee5777,
      tagEntry 0x612ee61da6880750deaaa6cb 0xc8 15 0x87ef4d9fe7beb5705042f095f6cb73 0x5d1e157a,
      tagEntry 0x6130e621a6880750deafa6cb 0xc9 15 0xc9430ccd119c8a8844134719784e6f 0x4443044b,
      tagEntry 0x6132e625a6880750deb4a6cb 0xca 15 0x440861afcace503081814dae770697 0x6e369e43,
      tagEntry 0x6134e629a6880750deb9a6cb 0xcb 15 0xfb1866e9e93b8ab9626dfcbbef8fe1 0xa5586549,
      tagEntry 0x6136e62da6880750debea6cb 0xcc 15 0x99ae59dd3a3736dc6e3df3b3650139 0x0545b00c,
      tagEntry 0x6138e631a6880750dec3a6cb 0xcd 15 0x0e9bfd6c676db56ab122b91449747c 0x8e121798,
      tagEntry 0x613ae635a6880750dec8a6cb 0xce 15 0x113ea6c1320859dfae99360781f8d8 0xbc1d53a4,
      tagEntry 0x613ce639a6880750decda6cb 0xcf 15 0x3e835c8e24e32cfe37ee31c719c8e4 0xabdbb6c2,
      tagEntry 0x613ce639a6880750decda6cb 0x00 5 0x2e83fe36d7 0x0eb4eb31,
      tagEntry 0x613ce639a6880750decda6cb 0x00 5 0x2e83e05113 0x7c566c7c,
      tagEntry 0x613ce639a6880750decda6cb 0x00 5 0x2e83728297 0xbddd9fa0,
      tagEntry 0x613ce939a6880750decdaecd 0xc1 15 0xaaaaaaaaaaaaaaaaaaaaaaaaaaaaaa 0x31f4f596,
      tagEntry 0x613ce939a6880750decdaecd 0x01 5 0xfc998d525e 0xfb36ed08,
      tagEntry 0x611ee6fda6880750de82a6cb 0x00 5 0x469d0042c9 0x61fa0f91,
      tagEntry 0x611eeefda9880750de82a6cb 0xc0 15 0xd239298b18051af4f9cd040b7a1091 0x2808603f,
      tagEntry 0x611eeefda9880750de82a6cb 0x00 5 0xd3392f55c9 0x4ac005a8]

def bumpIv (iv : Iv) (rand : UInt8) : Iv :=
  let index := (rand >>> 4).toNat % 12
  have bound : index < 12 := Nat.mod_lt _ (by decide)
  iv.set index (iv[index] + (rand &&& 0x0f)) bound

def nextIv (iv : Iv) (randIv : Vector UInt8 3) : Iv :=
  bumpIv (bumpIv (bumpIv iv randIv[0]) randIv[1]) randIv[2]

def initRandGenerator (initializer : UInt16) : UInt16 := initializer &&& 0xFFFF

def shiftRegister (reg : UInt16) : UInt16 :=
  -- The register is promoted to `int` before it is shifted, so that its bit 16 is zero.
  let wide : UInt32 := reg.toUInt32
  let bit (position : UInt32) : UInt32 := (wide >>> position) &&& 1
  let feedback : UInt32 := bit 16 ^^^ bit 15 ^^^ bit 13 ^^^ bit 4 ^^^ bit 0
  UInt32.toUInt16 ((wide >>> 1) ||| (feedback <<< 15))

def randByteFrom : Nat → UInt8 → UInt8 → UInt16 → UInt8 × UInt16
  | 0, _, randByte, reg => (randByte, reg)
  | left + 1, turn, randByte, reg =>
      randByteFrom left (turn + 1) (randByte + ((reg &&& 1).toUInt8 <<< turn)) (shiftRegister reg)

def getRandByte (reg : UInt16) : UInt8 × UInt16 := randByteFrom 8 0 0 reg

def getRandBytes (reg : UInt16) : Vector UInt8 3 × UInt16 :=
  let first := getRandByte reg
  let second := getRandByte first.2
  let third := getRandByte second.2
  (#v[first.1, second.1, third.1], third.2)

end BleFwUpdate
