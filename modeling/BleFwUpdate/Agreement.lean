import BleFwUpdate.Messages

/-! What the host makes of the responses of the device. -/

namespace BleFwUpdate

def responses (effects : List Effect) : List (List UInt8) :=
  effects.filterMap fun effect => match effect with
    | .response bytes => some bytes
    | _ => none

def ackResponse (gcm : AesGcm) (hardware : Hardware) (ack : Bool) (mode : Mode) (device : Device) :
    List UInt8 :=
  match mode with
  | .raw => rawResponse hardware ack device.countPck
  | .secure => secureResponse gcm device.iv ack device.countPck (getRandBytes device.reg).1

theorem responses_sendAck (gcm : AesGcm) (hardware : Hardware) (ack : Bool) (mode : Mode)
    (device : Device) :
    responses (sendAck gcm hardware ack mode.replyType device.cleared).effects =
      [ackResponse gcm hardware ack mode device] := by
  cases mode <;> rfl

theorem randIv_sendAck (gcm : AesGcm) (hardware : Hardware) (ack : Bool) (device : Device) :
    (sendAck gcm hardware ack .writeSecureFlashPacketResponse device.cleared).randIv =
      (getRandBytes device.reg).1 := rfl

theorem readResponse_raw (gcm : AesGcm) (hardware : Hardware) (ack : Bool) (count : UInt16)
    {host : Host} (plain : host.security = false) :
    readResponse gcm (rawResponse hardware ack count) host =
      { host with isAck := ack, ackRcv := true } := by
  cases ack <;> simp [readResponse, rawResponse, plain, ackByte, ackCmd, nakCmd]

theorem decryptMessage_secureResponse {gcm : AesGcm} (lawful : gcm.Lawful) (host : Host) (iv : Iv)
    (ack : Bool) (count : UInt16) (randIv : Vector UInt8 3) :
    decryptMessage gcm host (secureResponse gcm iv ack count randIv) =
      gcm.decrypt host.iv [ackByte ack]
        (gcm.encrypt iv [ackByte ack] (responsePlaintext count randIv)).1
        (gcm.encrypt iv [ackByte ack] (responsePlaintext count randIv)).2 := by
  have cipherLength : (gcm.encrypt iv [ackByte ack] (responsePlaintext count randIv)).1.length =
      5 := by
    simp [AesGcm.encrypt, lawful.length_ctr, responsePlaintext]
  rw [decryptMessage, secureResponse]
  simp only [List.take_succ_cons, List.take_zero, List.drop_succ_cons, List.drop_zero]
  rw [List.take_append_of_le_length (by omega), List.take_of_length_le (by omega),
    List.drop_append_of_le_length (by omega), List.drop_of_length_le (by omega), List.nil_append]

/-- The host tells the verdict from the high digit of the flag, which both verdicts have in
common. -/
theorem readResponse_secure {gcm : AesGcm} (lawful : gcm.Lawful) {host : Host}
    (crypto : host.security = true) (iv : Iv) (sameIv : host.iv = iv) (ack : Bool)
    (count : UInt16) (randIv : Vector UInt8 3) :
    readResponse gcm (secureResponse gcm iv ack count randIv) host =
      { host with
        msgTampered := false
        ackRcv := true
        randIv := randIv.toList
        isAck := true } := by
  have decrypted := decryptMessage_secureResponse lawful host iv ack count randIv
  rw [sameIv, lawful.decrypt_encrypt] at decrypted
  have flag : (secureResponse gcm iv ack count randIv).headD 0 = ackByte ack := rfl
  have digit : ackByte ack >>> 4 = 0 := by cases ack <;> decide
  simp only [readResponse, crypto, decrypted, responsePlaintext, flag, digit]
  simp

/-- The host acts on the verdict that the device has sent, and takes over its random bytes,
exactly if the response is not a NAK in secure mode. -/
theorem verdict_agrees_iff (gcm : AesGcm) (lawful : gcm.Lawful) (hardware : Hardware)
    (mode : Mode) (ack : Bool) (device : Device) (host : Host)
    (sameMode : host.security = (mode == .secure)) (sameIv : host.iv = device.iv) :
    let after := sendAck gcm hardware ack mode.replyType device.cleared
    (∃ bytes, responses after.effects = [bytes] ∧ (readResponse gcm bytes host).isAck = ack ∧
      (mode = .secure → (readResponse gcm bytes host).randIv = after.randIv.toList)) ↔
      ¬ (mode = .secure ∧ ack = false) := by
  intro after
  have sent := responses_sendAck gcm hardware ack mode device
  simp only [after, sent, List.cons.injEq, and_true, exists_eq_left']
  cases mode with
  | raw =>
      rw [ackResponse, readResponse_raw gcm hardware ack device.countPck sameMode]
      simp
  | secure =>
      rw [ackResponse, readResponse_secure lawful sameMode device.iv sameIv ack device.countPck]
      simp only [Mode.replyType, randIv_sendAck]
      cases ack <;> simp

theorem verdict_agrees_on_ack :
    let iv := nextIv initialIv (getRandBytes 0x1234).1
    let device := { powerOn (fun _ => 0) with
      iv := iv, countPck := 1, reg := (getRandBytes 0x1234).2 }
    let host := { initialHost with security := true, iv := iv }
    let after := sendAck .sample (.working 0) true .writeSecureFlashPacketResponse device.cleared
    ∃ bytes, responses after.effects = [bytes] ∧ (readResponse .sample bytes host).isAck = true ∧
      (Mode.secure = .secure →
        (readResponse .sample bytes host).randIv = after.randIv.toList) :=
  (verdict_agrees_iff .sample (AesGcm.lawful_ofTables _ _) (.working 0) .secure true
    { powerOn (fun _ => 0) with
      iv := nextIv initialIv (getRandBytes 0x1234).1
      countPck := 1
      reg := (getRandBytes 0x1234).2 }
    { initialHost with security := true, iv := nextIv initialIv (getRandBytes 0x1234).1 }
    rfl rfl).mpr (by simp)

/-- The NAK for a window of one packet: the host takes it for an ACK. -/
theorem secureNak_read_as_ack :
    let iv := nextIv initialIv (getRandBytes 0x1234).1
    let device := { powerOn (fun _ => 0) with
      iv := iv, countPck := 1, reg := (getRandBytes 0x1234).2 }
    let host := { initialHost with security := true, iv := iv, isAck := false }
    ∃ bytes,
      responses (sendAck .sample (.working 0) false .writeSecureFlashPacketResponse
        device.cleared).effects = [bytes] ∧
      bytes = [0x01, 0x46, 0x9c, 0x93, 0xa9, 0xcd, 0x8d, 0x35, 0x2e, 0xaa] ∧
      (readResponse .sample bytes host).isAck = true :=
  ⟨_, rfl, by decide +kernel, by decide +kernel⟩

end BleFwUpdate
