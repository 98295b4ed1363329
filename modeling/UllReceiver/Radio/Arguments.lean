import UllReceiver.Air.AirSession
import UllReceiver.Radio.Request

/-!
# Argument checks of the transmitter

What `ull_radio_tx_submit` refuses before it looks at the radio.
-/

namespace UllReceiver.Radio

open Air (clockMask)

namespace RadioTxRequest

def length (r : RadioTxRequest) : Nat :=
  r.payload.length

/-- Microseconds on the air, preamble and checksum included. -/
def airUs (r : RadioTxRequest) : Nat :=
  if r.phy = 1 then (r.length + 10) * 8 else (r.length + 11) * 4

/-- The headers the transmitter knows. -/
def headerRefused (r : RadioTxRequest) : Prop :=
  r.header > 15 ∧ r.header ≠ 0x10 ∧ r.header ≠ 0x11 ∧ r.header ≠ 0x20 ∧ r.header ≠ 0x30 ∧
    ¬(r.header = 0x32 ∧ (r.length = 205 ∨ r.length = 15) ∧ r.phy = 2)

/-- A repeated payload is a whole stereo packet with the reply queued beside it. -/
def repeatRefused (r : RadioTxRequest) : Prop :=
  r.repeatPayload ≠ 0 ∧ (r.prequeuedReply = 0 ∨
    ¬(r.length = 203 ∧ r.header = 0x30 ∨ r.length = 205 ∧ r.header = 0x32) ∨
    r.phy ≠ 2 ∨ r.followupDelayUs ≠ 1420)

/-- A prequeued reply starts after the packet. -/
def prequeuedRefused (r : RadioTxRequest) : Prop :=
  r.prequeuedReply ≠ 0 ∧ (r.followupDelayUs = 0 ∨ r.followupDelayUs.toNat < r.airUs + 300)

def followupRefused (r : RadioTxRequest) : Prop :=
  r.followupDelayUs ≠ 0 ∧ (r.receiveUs ≠ 0 ∨ r.txReceiveUs ≠ 0 ∨
    r.followupDelayUs < (if r.prequeuedReply ≠ 0 then 700 else 1800) ∨ r.followupDelayUs > 3500 ∨
    r.followupWindowUs = 0 ∨ r.followupWindowUs > 1000 ∨ r.followupChannel > 39)

/-- The condition under which `ull_radio_tx_submit` returns `0x12`. -/
def refused (r : RadioTxRequest) : Prop :=
  r.length = 0 ∨ r.length > 251 ∨ r.channel > 39 ∨ r.headerRefused ∨ r.phy < 1 ∨ r.phy > 2 ∨
    r.startHs > clockMask ∨ r.startHus > 624 ∨ r.crcInit > 0xffffff ∨ r.receiveUs > 1000 ∨
    r.txReceiveUs > 1000 ∨ (r.receiveUs ≠ 0 ∧ r.txReceiveUs ≠ 0) ∨ r.prequeuedReply > 1 ∨
    r.repeatPayload > 1 ∨ r.repeatRefused ∨ r.prequeuedRefused ∨ r.followupRefused ∨
    (r.followupDelayUs = 0 ∧ r.followupWindowUs ≠ 0)

instance (r : RadioTxRequest) : Decidable r.headerRefused :=
  inferInstanceAs (Decidable (_ ∧ _))

instance (r : RadioTxRequest) : Decidable r.repeatRefused :=
  inferInstanceAs (Decidable (_ ∧ _))

instance (r : RadioTxRequest) : Decidable r.prequeuedRefused :=
  inferInstanceAs (Decidable (_ ∧ _))

instance (r : RadioTxRequest) : Decidable r.followupRefused :=
  inferInstanceAs (Decidable (_ ∧ _))

instance (r : RadioTxRequest) : Decidable r.refused :=
  inferInstanceAs (Decidable (_ ∨ _))

end RadioTxRequest

end UllReceiver.Radio
