import LabelPress.Config.Reading
import LabelPress.Transmission.Printer

/-!
# Printer configurations

How the printer is reached and how fast it is fed. A connection is one of three kinds, told apart by
the field `type`; the other fields depend on the kind.

* `Connection`, `PrinterConfig`: the types.
* `PrinterConfig.read`: the configuration that a document holds.
* `PrinterConfig.chunkSize_pos_of_read`: the chunks of an accepted configuration have bytes.
-/

namespace LabelPress

open Yaml (Value Document)

/-- A serial port. -/
structure SerialConnection where
  /-- The device. -/
  device : List Char
  /-- Symbols per second. -/
  baudrate : Int := 115200
  /-- Bits of a byte. -/
  bytesize : Int := 8
  /-- The letter of the parity. -/
  parity : List Char := ['N']
  /-- Stop bits. -/
  stopbits : Float := 1
deriving Repr

/-- A socket. -/
structure TcpConnection where
  /-- The host. -/
  host : List Char
  /-- The port's number. -/
  port : Int := 9100
deriving Repr

/-- The characteristic that is written to, if nothing else is said. -/
def defaultCharacteristic : List Char := "0000ff02-0000-1000-8000-00805f9b34fb".toList

/-- A Bluetooth device. -/
structure BluetoothConnection where
  /-- The device's address. -/
  address : List Char
  /-- The characteristic that is written to. -/
  characteristic : List Char := defaultCharacteristic
  /-- The seconds that connecting may take. -/
  timeout : Float := 20
deriving Repr

/-- How the printer is reached. -/
inductive Connection where
  /-- Through a serial port. -/
  | serial (c : SerialConnection)
  /-- Through a socket. -/
  | tcp (c : TcpConnection)
  /-- Through the air. -/
  | bluetooth (c : BluetoothConnection)
deriving Repr

/-- A printer. -/
structure PrinterConfig where
  /-- Its name. -/
  name : List Char := "printer".toList
  /-- How it is reached. -/
  connection : Connection
  /-- The bytes of a chunk. -/
  chunkSize : Int := Transmission.defaultChunkSize
  /-- The seconds between two chunks. -/
  chunkDelay : Float := Transmission.defaultChunkDelay
  /-- The seconds between two copies. -/
  copyDelay : Float := Transmission.defaultCopyDelay
  /-- The millimetres to feed after a label. -/
  feedMm : Float := Wire.defaultFeedMm
deriving Repr

open Config

/-- The serial port that fields tell. -/
def SerialConnection.ofFields (m : Fields) : Verdict SerialConnection :=
  SerialConnection.mk <$> required "device" text m <*> optional "baudrate" 115200 integer m <*>
    optional "bytesize" 8 integer m <*> optional "parity" ['N'] text m <*>
    optional "stopbits" 1 real m

/-- The socket that fields tell. -/
def TcpConnection.ofFields (m : Fields) : Verdict TcpConnection :=
  TcpConnection.mk <$> required "host" text m <*> optional "port" 9100 integer m

/-- The Bluetooth device that fields tell. -/
def BluetoothConnection.ofFields (m : Fields) : Verdict BluetoothConnection :=
  BluetoothConnection.mk <$> required "address" text m <*>
    optional "write_characteristic" defaultCharacteristic text m <*>
    optional "timeout" 20 real m

namespace Connection

/-- The kind of a connection. -/
def kind : Connection → String
  | serial _ => "serial"
  | tcp _ => "tcp"
  | bluetooth _ => "bluetooth"

/-- The connection of a kind that fields tell. -/
def ofFields (kind : List Char) (m : Fields) : Verdict Connection :=
  match String.ofList kind with
  | "serial" => (serial <$> SerialConnection.ofFields m).below kind
  | "tcp" => (tcp <$> TcpConnection.ofFields m).below kind
  | "bluetooth" => (bluetooth <$> BluetoothConnection.ofFields m).below kind
  | _ => .flaw .unknownTag

/-- **The connection that a value of a document tells.** -/
def read (d : Document) (v : Value) : Verdict Connection :=
  match d.collection? v with
  | some (.mapping m) =>
    match valueOf? "type" m with
    | none => .flaw .untagged
    | some (.text kind) => ofFields kind m
    | some _ => .flaw .unknownTag
  | _ => .flaw .notConnection

end Connection

namespace PrinterConfig

/-- The printer that fields tell. -/
def ofFields (d : Document) (m : Fields) : Verdict PrinterConfig :=
  PrinterConfig.mk <$> optional "name" "printer".toList text m <*>
    required "connection" (Connection.read d) m <*>
    optional "chunk_size" Transmission.defaultChunkSize count m <*>
    optional "chunk_delay" Transmission.defaultChunkDelay amount m <*>
    optional "copy_delay" Transmission.defaultCopyDelay amount m <*>
    optional "feed_mm" Wire.defaultFeedMm amount m

/-- **The printer that a value of a document tells.** -/
def read (d : Document) (v : Value) : Verdict PrinterConfig :=
  (fields d v).andThen (ofFields d)

/-- The settings of its jobs. -/
def printer (c : PrinterConfig) : Transmission.Printer where
  name := c.name
  chunkSize := c.chunkSize
  chunkDelay := c.chunkDelay
  copyDelay := c.copyDelay
  feedMm := .real c.feedMm

/-- The chunks of an accepted configuration have bytes. -/
theorem chunkSize_pos_of_read {d : Document} {v : Value} {c : PrinterConfig}
    (h : read d v = .accepted c) : 0 < c.chunkSize := by
  obtain ⟨m, _, h⟩ := Verdict.andThen_eq_accepted_iff.1 h
  simp only [ofFields, Verdict.seq_eq_accepted_iff] at h
  obtain ⟨_, _, ⟨_, _, ⟨_, _, ⟨_, _, ⟨_, _, hg, _, rfl⟩, hs, rfl⟩, _, rfl⟩, _, rfl⟩, _, rfl⟩ := h
  obtain ⟨_, _, rfl⟩ := Verdict.map_eq_accepted_iff.1 hg
  rcases optional_eq_accepted hs with rfl | ⟨w, hw⟩
  · exact (by decide : 0 < Transmission.defaultChunkSize)
  · obtain ⟨n, _, hn⟩ := Verdict.andThen_eq_accepted_iff.1 hw
    obtain ⟨hpos, rfl⟩ := positive_eq_accepted_iff.1 hn
    exact hpos

end PrinterConfig

end LabelPress
