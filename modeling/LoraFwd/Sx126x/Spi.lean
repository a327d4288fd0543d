import LoraFwd.CTypes

/-!
# The SPI link to the SX126x

`sx126x_hal.c` talks to the radio through the Linux spidev device.  Every
`spi_device_transmit` opens the device, hands one `SPI_IOC_MESSAGE` transfer to
the kernel and closes the device again, and `spi_transfer` sends one byte that
way.  The device is modelled as the platform under the GPIO driver is: by the
answers it will give, in order, and the record of what each transfer handed
to the kernel, most recent first.

A C local that is read before anything is written to it holds an unspecified
value.  The functions take that value as an argument, so that a theorem about
them holds whatever it is; each call of `spi_transfer` has its own, so a
sequence of transfers takes one for each.
-/

namespace LoraFwd.Sx126x

open LoraFwd.CTypes

/-- `SPI_TRANS_USE_TXDATA` and `SPI_TRANS_USE_RXDATA`. -/
def spiTransUseTxdata : UInt32 := (1 : UInt32) <<< 0
def spiTransUseRxdata : UInt32 := (1 : UInt32) <<< 1

/-- `spi_transaction_t`, with the buffers given by their contents: the bytes to
send and what the receive buffer holds. -/
structure SpiTransaction where
  flags : UInt32
  cmd : UInt16
  addr : UInt32
  length : Nat
  txBuffer : List UInt8
  rxBuffer : List UInt8
  dummyBits : UInt32
deriving DecidableEq, Repr

/-- A transaction after `memset(&spi_transaction, 0, ...)`. -/
def SpiTransaction.zero : SpiTransaction := ⟨0, 0, 0, 0, [], [], 0⟩

/-- The answer of the device to one `spi_device_transmit`: whether `open` and
the ioctl succeed, and what the ioctl leaves in the local `rx` array, from its
start.  Bytes past the list read as 0; a long enough list gives any contents. -/
structure SpiReply where
  opened : Bool
  transferred : Bool
  rx : List UInt8
deriving DecidableEq, Repr

/-- A device that cannot be opened. -/
def SpiReply.failed : SpiReply := ⟨false, false, []⟩

/-- The `count` bytes of the `rx` array after the transfer. -/
def SpiReply.rxArray (reply : SpiReply) (count : Nat) : List UInt8 :=
  (List.range count).map fun index => reply.rx.getD index 0

/-- The spidev device: its answers to come, and what each transfer that
reached the ioctl handed to the kernel, most recent first (`none` for the
uninitialised `tx` array of a transaction without `SPI_TRANS_USE_TXDATA`). -/
structure SpiDevice where
  replies : List SpiReply
  sent : List (Option (List UInt8))
deriving DecidableEq, Repr

/-- The next answer of the device; once the answers are exhausted the device
cannot be opened. -/
def SpiDevice.next (dev : SpiDevice) : SpiReply × SpiDevice :=
  match dev.replies with
  | [] => (SpiReply.failed, dev)
  | reply :: rest => (reply, { dev with replies := rest })

/-- `spi_device_transmit`: its result, what the caller's receive buffer holds
after it, and the device.  A failed `open` or ioctl returns `-1` and leaves
the receive buffer as it was. -/
def spiDeviceTransmit (trans : SpiTransaction) (dev : SpiDevice) :
    Int × List UInt8 × SpiDevice :=
  let (reply, dev) := dev.next
  if !reply.opened then (-1, trans.rxBuffer, dev)
  else
    let withCmd := trans.cmd ≠ 0
    let tx : Option (List UInt8) :=
      if trans.flags &&& spiTransUseTxdata ≠ 0 then
        some ((if withCmd then [(trans.cmd >>> 8).toUInt8, (trans.cmd &&& 0xFF).toUInt8] else []) ++
          trans.txBuffer.take trans.length)
      else none
    let dev := { dev with sent := tx :: dev.sent }
    if !reply.transferred then (-1, trans.rxBuffer, dev)
    else
      let rx := reply.rxArray (trans.length + 4)
      let rxBuffer :=
        if trans.flags &&& spiTransUseRxdata ≠ 0 then
          memcpy trans.rxBuffer (rx.drop (if withCmd then 2 else 0)) trans.length
        else trans.rxBuffer
      (0, rxBuffer, dev)

/-- `spi_rw_byte`: one transaction of `length` bytes, whatever it returns. -/
def spiRwByte (dataIn dataOut : List UInt8) (length : Nat) (dev : SpiDevice) :
    Bool × List UInt8 × SpiDevice :=
  if length > 0 then
    let trans := { SpiTransaction.zero with
      flags := spiTransUseTxdata ||| spiTransUseRxdata, length, txBuffer := dataOut, rxBuffer := dataIn }
    let (_, dataIn, dev) := spiDeviceTransmit trans dev
    (true, dataIn, dev)
  else (true, dataIn, dev)

/-- `spi_transfer`: send one byte and return the byte received, or what the
uninitialised `data_in` held (`dataIn`) when the transfer failed. -/
def spiTransfer (dataIn address : UInt8) (dev : SpiDevice) : UInt8 × SpiDevice :=
  let (_, received, dev) := spiRwByte [dataIn] [address] 1 dev
  (received.headD dataIn, dev)

theorem spiTransUse_txdata : (spiTransUseTxdata ||| spiTransUseRxdata) &&& spiTransUseTxdata ≠ 0 := by
  decide

theorem spiTransUse_rxdata : (spiTransUseTxdata ||| spiTransUseRxdata) &&& spiTransUseRxdata ≠ 0 := by
  decide

/-- One byte sent, from the device's point of view. -/
theorem spiTransfer_eq (dataIn address : UInt8) (dev : SpiDevice) :
    spiTransfer dataIn address dev =
      if dev.next.1.opened then
        (if dev.next.1.transferred then dev.next.1.rx.getD 0 0 else dataIn,
          { dev.next.2 with sent := some [address] :: dev.next.2.sent })
      else (dataIn, dev.next.2) := by
  obtain ⟨replies, sent⟩ := dev
  cases replies with
  | nil => rfl
  | cons reply rest =>
    obtain ⟨opened, transferred, rx⟩ := reply
    cases opened
    · rfl
    cases transferred
    · simp only [spiTransfer, spiRwByte, spiDeviceTransmit, SpiTransaction.zero, spiTransUse_txdata,
        if_true]
      rfl
    · simp only [spiTransfer, spiRwByte, spiDeviceTransmit, SpiTransaction.zero, spiTransUse_txdata,
        spiTransUse_rxdata, if_true]
      rfl

/-- Bytes written with `spi_transfer`, what they read back discarded.  The
`k`-th transfer finds `dataIn k` in its `data_in`. -/
def spiWriteBytes (dataIn : Nat → UInt8) : List UInt8 → SpiDevice → SpiDevice
  | [], dev => dev
  | byte :: rest, dev => spiWriteBytes (fun k => dataIn (k + 1)) rest (spiTransfer (dataIn 0) byte dev).2

theorem spiWriteBytes_append : ∀ (dataIn : Nat → UInt8) (first second : List UInt8) (dev : SpiDevice),
    spiWriteBytes dataIn (first ++ second) dev =
      spiWriteBytes (fun k => dataIn (k + first.length)) second (spiWriteBytes dataIn first dev)
  | _, [], _, _ => rfl
  | dataIn, _ :: rest, second, _ => spiWriteBytes_append (fun k => dataIn (k + 1)) rest second _

/-- `count` bytes read with `spi_transfer(context, 0x00)`, the `k`-th finding
`dataIn k` in its `data_in`. -/
def spiReadBytes (dataIn : Nat → UInt8) : Nat → SpiDevice → List UInt8 × SpiDevice
  | 0, dev => ([], dev)
  | count + 1, dev =>
    let (byte, dev) := spiTransfer (dataIn 0) 0x00 dev
    let (bytes, dev) := spiReadBytes (fun k => dataIn (k + 1)) count dev
    (byte :: bytes, dev)

/-- A transfer in which the device opens and the ioctl succeeds. -/
def SpiReply.Delivers (reply : SpiReply) : Prop := reply.opened = true ∧ reply.transferred = true

/-- When the device opens for every one of them, written bytes reach the
kernel one transfer each, in order. -/
theorem spiWriteBytes_eq : ∀ (dataIn : Nat → UInt8) (bytes : List UInt8) (dev : SpiDevice),
    bytes.length ≤ dev.replies.length →
      (∀ reply ∈ dev.replies.take bytes.length, reply.opened = true) →
        spiWriteBytes dataIn bytes dev =
          ⟨dev.replies.drop bytes.length, (bytes.map fun byte => some [byte]).reverse ++ dev.sent⟩
  | _, [], _, _, _ => rfl
  | dataIn, byte :: rest, ⟨reply :: replies, sent⟩, enough, opened => by
    have first : reply.opened = true := opened reply (List.mem_cons_self _ _)
    simp only [spiWriteBytes, spiTransfer_eq, SpiDevice.next, first, if_true]
    rw [spiWriteBytes_eq _ rest _ (by simpa using enough)
      fun other member => opened other (List.mem_cons_of_mem _ member)]
    simp

/-- When every transfer delivers, the bytes read are the first bytes the
device clocked in, and the kernel is handed a `0x00` for each. -/
theorem spiReadBytes_eq : ∀ (dataIn : Nat → UInt8) (count : Nat) (dev : SpiDevice),
    count ≤ dev.replies.length → (∀ reply ∈ dev.replies.take count, reply.Delivers) →
      spiReadBytes dataIn count dev =
        ((dev.replies.take count).map fun reply => reply.rx.getD 0 0,
          ⟨dev.replies.drop count, List.replicate count (some [0x00]) ++ dev.sent⟩)
  | _, 0, _, _, _ => rfl
  | dataIn, count + 1, ⟨reply :: replies, sent⟩, enough, delivers => by
    have first := delivers reply (List.mem_cons_self _ _)
    simp only [spiReadBytes, spiTransfer_eq, SpiDevice.next, first.1, first.2, if_true]
    rw [spiReadBytes_eq _ count _ (by simpa using enough)
      fun other member => delivers other (List.mem_cons_of_mem _ member)]
    simp only [List.map_cons, List.take_succ_cons, List.drop_succ_cons, Prod.mk.injEq, true_and,
      SpiDevice.mk.injEq]
    rw [show some [(0 : UInt8)] :: sent = List.replicate 1 (some [0]) ++ sent from rfl,
      ← List.append_assoc, List.append_replicate_replicate]

end LoraFwd.Sx126x
