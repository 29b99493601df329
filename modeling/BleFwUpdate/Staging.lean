import BleFwUpdate.General.LittleEndian
import BleFwUpdate.MessageHandler

/-! The packing loops: what `flash_buff` holds after any bytes have been staged. -/

namespace BleFwUpdate

open LittleEndian

/-- The buffer holds exactly the given bytes, packed from its first entry on. An empty
buffer may have any `byte_pos`: nothing resets that variable. -/
structure Staged (bytes : List UInt8) (staging : Staging) : Prop where
  count : (staging.contBuff + 1).toNat = wordCount bytes
  words : ∀ index < wordCount bytes, staging.flashBuff index = wordAt bytes index
  position : bytes ≠ [] → staging.bytePos.toNat = bytes.length % 8
  small : staging.bytePos.toNat < 8

theorem staged_nil {staging : Staging} (empty : staging.contBuff = 0xFFFF)
    (small : staging.bytePos.toNat < 8) : Staged [] staging where
  count := by rw [empty]; rfl
  words index inside := by simp [wordCount] at inside
  position nonempty := (nonempty rfl).elim
  small := small

theorem toNat_bytePos_next (position : UInt8) :
    ((position + 1) % 8).toNat = (position.toNat + 1) % 8 := by
  simp

theorem contBuff_of_succ {contBuff : UInt16} {count : Nat}
    (succ : (contBuff + 1).toNat = count + 1) : contBuff.toNat = count := by
  rw [UInt16.toNat_add] at succ
  have bound := contBuff.toNat_lt
  simp at succ
  omega

theorem contBuff_of_zero {contBuff : UInt16} (zero : (contBuff + 1).toNat = 0) :
    contBuff = 0xFFFF := by
  apply UInt16.toNat_inj.mp
  rw [UInt16.toNat_add] at zero
  have bound := contBuff.toNat_lt
  simp at zero ⊢
  omega

theorem stageByte_staged {bytes : List UInt8} {staging : Staging} (byte : UInt8)
    (staged : Staged bytes staging) (aligned : staging.bytePos.toNat = bytes.length % 8)
    (room : bytes.length < 8 * 65535) : Staged (bytes ++ [byte]) (stageByte staging byte) := by
  have count := staged.count
  have wordsNow : wordCount bytes = (bytes.length + 7) / 8 := rfl
  have wordsNext : wordCount (bytes ++ [byte]) = bytes.length / 8 + 1 := by
    simp only [wordCount, List.length_append, List.length_singleton]
    omega
  by_cases boundary : staging.bytePos = 0
  · have whole : bytes.length % 8 = 0 := by rw [← aligned, boundary]; rfl
    have indexEq : (staging.contBuff + 1).toNat = bytes.length / 8 := by omega
    constructor
    · simp only [stageByte, boundary, ne_eq, not_true_eq_false, if_false]
      rw [UInt16.toNat_add, indexEq, wordsNext]
      simp
      omega
    · intro index inside
      simp only [stageByte, boundary, ne_eq, not_true_eq_false, if_false, indexEq]
      by_cases last : index = bytes.length / 8
      · rw [if_pos last, wordAt_concat_new bytes byte index (by omega)]
        simp
      · rw [if_neg last, staged.words index (by omega), wordAt_append_left _ _ _ (by omega)]
    · intro _
      simp only [stageByte, boundary, List.length_append, List.length_singleton]
      rw [toNat_bytePos_next]
      simp
      omega
    · simp only [stageByte, boundary]
      decide
  · have partly : bytes.length % 8 ≠ 0 := by
      rw [← aligned]
      intro zero
      exact boundary (UInt8.toNat_inj.mp zero)
    have indexEq : staging.contBuff.toNat = bytes.length / 8 :=
      contBuff_of_succ (by omega)
    constructor
    · simp only [stageByte, ne_eq, boundary, not_false_eq_true, if_true]
      omega
    · intro index inside
      simp only [stageByte, ne_eq, boundary, not_false_eq_true, if_true, indexEq]
      by_cases last : index = bytes.length / 8
      · rw [if_pos last, staged.words _ (by omega), last]
        exact (wordAt_concat_last bytes byte staging.bytePos _ staged.small (by omega)).symm
      · rw [if_neg last, staged.words index (by omega), wordAt_append_left _ _ _ (by omega)]
    · intro _
      simp only [stageByte, List.length_append, List.length_singleton]
      rw [toNat_bytePos_next]
      omega
    · simp only [stageByte]
      rw [toNat_bytePos_next]
      omega

/-- With an empty buffer and `byte_pos` in the middle of a double word, the next byte goes
to the entry before the first one. -/
theorem stageByte_skewed {staging : Staging} (byte : UInt8) (staged : Staged [] staging)
    (skewed : staging.bytePos ≠ 0) :
    Staged [] (stageByte staging byte) ∧
      (stageByte staging byte).bytePos.toNat = (staging.bytePos.toNat + 1) % 8 := by
  have position : (stageByte staging byte).bytePos.toNat = (staging.bytePos.toNat + 1) % 8 := by
    simp only [stageByte]
    exact toNat_bytePos_next _
  have empty : staging.contBuff = 0xFFFF :=
    contBuff_of_zero (by simpa [wordCount] using staged.count)
  refine ⟨staged_nil ?_ (by omega), position⟩
  simp [stageByte, skewed, empty]

def skew (staging : Staging) : Nat := (8 - staging.bytePos.toNat) % 8

theorem stageBytes_aligned {bytes : List UInt8} {staging : Staging} (more : List UInt8)
    (staged : Staged bytes staging) (aligned : staging.bytePos.toNat = bytes.length % 8)
    (room : bytes.length + more.length ≤ 8 * 65535) :
    Staged (bytes ++ more) (more.foldl stageByte staging) := by
  induction more generalizing bytes staging with
  | nil => simpa using staged
  | cons byte rest ih =>
      simp only [List.length_cons] at room
      have next := stageByte_staged byte staged aligned (by omega)
      have result := ih next (next.position (by simp)) (by simp; omega)
      simpa using result

theorem stageBytes_skewed {staging : Staging} (more : List UInt8) (staged : Staged [] staging)
    (room : more.length ≤ 8 * 65535) :
    Staged (more.drop (skew staging)) (more.foldl stageByte staging) := by
  induction more generalizing staging with
  | nil => simpa using staged
  | cons byte rest ih =>
      simp only [List.length_cons] at room
      have bound := staged.small
      by_cases boundary : staging.bytePos = 0
      · have noSkew : skew staging = 0 := by simp [skew, boundary]
        rw [noSkew, List.drop_zero]
        exact stageBytes_aligned (byte :: rest) staged (by simp [boundary]) (by simp; omega)
      · have positive : staging.bytePos.toNat ≠ 0 := fun zero =>
          boundary (UInt8.toNat_inj.mp zero)
        obtain ⟨next, position⟩ := stageByte_skewed byte staged boundary
        have oneLess : skew staging = skew (stageByte staging byte) + 1 := by
          simp only [skew, position]
          omega
        rw [oneLess, List.drop_succ_cons]
        exact ih next (by omega)

/-- Staging on top of any buffer: the bytes staged before stay, and only the bytes lost to
a skewed empty buffer are missing. -/
theorem stageBytes_staged {bytes : List UInt8} {staging : Staging} (more : List UInt8)
    (staged : Staged bytes staging) (room : bytes.length + more.length ≤ 8 * 65535) :
    Staged (bytes ++ more.drop (if bytes = [] then skew staging else 0))
      (more.foldl stageByte staging) := by
  by_cases empty : bytes = []
  · subst empty
    simpa using stageBytes_skewed more staged (by simpa using room)
  · simpa [empty] using stageBytes_aligned more staged (staged.position empty) room

def stagedAt : List UInt8 → Staging → List Nat
  | [], _ => []
  | byte :: rest, staging =>
      (stageByte staging byte).contBuff.toNat :: stagedAt rest (stageByte staging byte)

theorem stageBytes_touched (more : List UInt8) (staging : Staging) :
    (more.foldl stageByte staging).touched = staging.touched ++ stagedAt more staging := by
  induction more generalizing staging with
  | nil => simp [stagedAt]
  | cons byte rest ih => simp [stagedAt, ih, stageByte]

theorem stageBytes_entries (more : List UInt8) (staging : Staging) :
    (more.foldl stageByte staging).entries = staging.entries ++ stagedAt more staging := by
  induction more generalizing staging with
  | nil => simp [stagedAt]
  | cons byte rest ih => simp [stagedAt, ih, stageByte]

theorem stagedAt_lt {bytes : List UInt8} {staging : Staging} (more : List UInt8)
    (staged : Staged bytes staging) (aligned : staging.bytePos.toNat = bytes.length % 8)
    (room : bytes.length + more.length ≤ 8 * 65535) :
    ∀ index ∈ stagedAt more staging, index < wordCount (bytes ++ more) := by
  induction more generalizing bytes staging with
  | nil => simp [stagedAt]
  | cons byte rest ih =>
      simp only [List.length_cons] at room
      have next := stageByte_staged byte staged aligned (by omega)
      have later := ih next (next.position (by simp)) (by simp; omega)
      rw [List.append_assoc, List.singleton_append] at later
      have words : wordCount (bytes ++ [byte]) = bytes.length / 8 + 1 := by
        simp only [wordCount, List.length_append, List.length_singleton]
        omega
      have first : (stageByte staging byte).contBuff.toNat = bytes.length / 8 :=
        contBuff_of_succ (next.count.trans words)
      intro index member
      rcases List.mem_cons.mp member with rfl | member
      · simp only [first, wordCount, List.length_append, List.length_cons]
        omega
      · exact later index member

theorem stageBytes_bytePos (more : List UInt8) (staging : Staging)
    (small : staging.bytePos.toNat < 8) :
    (more.foldl stageByte staging).bytePos.toNat = (staging.bytePos.toNat + more.length) % 8 := by
  induction more generalizing staging with
  | nil => simp; omega
  | cons byte rest ih =>
      have position : (stageByte staging byte).bytePos.toNat = (staging.bytePos.toNat + 1) % 8 :=
        toNat_bytePos_next _
      rw [List.foldl_cons, ih _ (by omega), position, List.length_cons]
      omega

theorem stageBytes_small (more : List UInt8) {staging : Staging}
    (small : staging.bytePos.toNat < 8) : (more.foldl stageByte staging).bytePos.toNat < 8 := by
  rw [stageBytes_bytePos more staging small]
  exact Nat.mod_lt _ (by decide)

theorem stageBytes_contBuff (more : List UInt8) (staging : Staging)
    (small : staging.bytePos.toNat < 8) :
    (more.foldl stageByte staging).contBuff =
      staging.contBuff + UInt16.ofNat ((staging.bytePos.toNat + more.length + 7) / 8 -
        (staging.bytePos.toNat + 7) / 8) := by
  induction more generalizing staging with
  | nil => simp
  | cons byte rest ih =>
      have position : (stageByte staging byte).bytePos.toNat = (staging.bytePos.toNat + 1) % 8 :=
        toNat_bytePos_next _
      rw [List.foldl_cons, ih _ (by omega), position, List.length_cons]
      by_cases boundary : staging.bytePos = 0
      · have first : (stageByte staging byte).contBuff = staging.contBuff + UInt16.ofNat 1 := by
          simp [stageByte, boundary]
        rw [first, boundary, UInt16.add_assoc, ← UInt16.ofNat_add]
        congr 2
        simp only [UInt8.toNat_zero]
        omega
      · have positive : staging.bytePos.toNat ≠ 0 := fun zero =>
          boundary (UInt8.toNat_inj.mp zero)
        have same : (stageByte staging byte).contBuff = staging.contBuff := by
          simp [stageByte, boundary]
        rw [same]
        congr 2
        rcases Nat.lt_or_ge (staging.bytePos.toNat + 1) 8 with next | last
        · rw [Nat.mod_eq_of_lt next]
          omega
        · have eight : staging.bytePos.toNat + 1 = 8 := by omega
          rw [eight]
          omega

theorem stageBytes_touched_irrelevant (more : List UInt8) (staging : Staging)
    (touched : List Nat) :
    more.foldl stageByte { staging with touched := touched } =
      { more.foldl stageByte staging with touched := touched ++ stagedAt more staging } := by
  induction more generalizing staging touched with
  | nil => simp [stagedAt]
  | cons byte rest ih =>
      have next : stageByte { staging with touched := touched } byte =
          { stageByte staging byte with
            touched := touched ++ [(stageByte staging byte).contBuff.toNat] } := rfl
      rw [List.foldl_cons, next, ih, List.foldl_cons, stagedAt, List.append_assoc,
        List.singleton_append]

end BleFwUpdate
