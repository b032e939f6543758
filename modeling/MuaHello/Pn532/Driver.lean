import MuaHello.Lib.Machine
import MuaHello.Pn532.Parser
import MuaHello.Pn532.SendCmd

/-!
# The driver operations

`PN532_ReadAck`, `PN532_ReadRsp` and the two command functions, over the static `sDataBuf` they
share with `PN532_SendCmd`.  What the bus does is an input: the result of each write and the bytes
each read delivers (`I2cRead`).  So is the memory behind `sDataBuf`, which the parser may look at:
every call that parses takes the contents it meets there (`after`).

The conversions between `int`, `uint8` and `int8` are the ones of the code.  What the functions
print is kept call by call (`LogCall`), as the debug switches of the file have it; `usleep` is left
out.
-/

namespace PN532

/-- `PN532_ACK_PACKET_LEN` -/
abbrev ackPacketLen : ℕ := 6

abbrev cmdGetFirmwareVersion : UInt8 := 0x02
abbrev cmdInListPassiveTarget : UInt8 := 0x4A

/-- What one `mraa_i2c_read` of `req` bytes does: it delivers some bytes, at most those asked for,
or fails and leaves the buffer alone. -/
inductive I2cRead (req : ℕ) where
  | delivered (bytes : List UInt8) (fits : bytes.length ≤ req)
  | failed

namespace I2cRead

variable {req : ℕ}

/-- The bytes the read delivers. -/
def bytes : I2cRead req → List UInt8
  | delivered bytes _ => bytes
  | failed => []

/-- The `int` the read returns. -/
def ret : I2cRead req → ℤ
  | delivered bytes _ => bytes.length
  | failed => -1

/-- The buffer after the read: exactly the delivered bytes are overwritten. -/
def store (r : I2cRead req) (m : ℕ → UInt8) : ℕ → UInt8 := listMem r.bytes m

lemma length_bytes_le : ∀ r : I2cRead req, r.bytes.length ≤ req
  | delivered _ fits => fits
  | failed => Nat.zero_le _

end I2cRead

/-- A call of `LOG`: the format and the numbers printed with it. -/
structure LogCall where
  fmt : String
  args : List ℤ
  deriving DecidableEq

/-- A result, the bytes that go with it, and the end of the line. -/
def dump (fmt : String) (res : ℤ) (bytes : List UInt8) : List LogCall :=
  ⟨fmt, [res]⟩ :: bytes.map (fun b => ⟨"%02x ", [b.toNat]⟩) ++ [⟨"\r\n", []⟩]

/-- What `PN532_SendCmd` prints: the result of the write and the bytes written. -/
def sendCmdLogs (sent : SendResult) (write : MraaResult) : List LogCall :=
  match sent.bus with
  | none => []
  | some bytes => dump "W - %02d - 0x" (UInt8.ofNat write.code).toNat bytes

/-- `PN532_ReadAck`, when the read does `read` and `after` follows `sDataBuf` in memory. -/
def readAck (s : Driver) (read : I2cRead ackPacketLen) (after : ℕ → UInt8) : Int8 × Driver :=
  let mem := read.store s.mem
  let res := UInt8.ofInt read.ret
  let res := (frameParser (some (overlay dataBufMax mem after)) res none none).code
  let ret := if res = tfiAck then ack else if res = tfiNack then nack else res
  (ret.toInt8, { s with mem := mem })

/-- What `PN532_ReadAck` prints: as many bytes of `sDataBuf`, and of what follows it, as the `uint8`
of the read's result says, and the code the parser returns. -/
def readAckLogs (s : Driver) (read : I2cRead ackPacketLen) (after : ℕ → UInt8) : List LogCall :=
  let view := overlay dataBufMax (read.store s.mem) after
  let res := UInt8.ofInt read.ret
  let code := (frameParser (some view) res none none).code
  dump "R - %02d - 0x" res.toNat (slice view 0 res.toNat)
    ++ [⟨if code = 0 then "ReadAck: 0x%02x - ACK\r\n" else "ReadAck: 0x%02x - NACK\r\n",
      [code.toNat]⟩]

/-- `PN532_ReadRsp`, with the memory at `pResp` after it. -/
def readRsp (pResp : Option (ℕ → UInt8)) (read : I2cRead dataBufMax) :
    Int8 × Option (ℕ → UInt8) :=
  match pResp with
  | none => (invalidParam.toInt8, none)
  | some m => (Int8.ofInt read.ret, some (read.store m))

/-- What `PN532_ReadRsp` prints: the bytes read, none if the read has failed. -/
def readRspLogs (pResp : Option (ℕ → UInt8)) (read : I2cRead dataBufMax) : List LogCall :=
  match pResp with
  | none => []
  | some m =>
      let res := (Int8.ofInt read.ret).toInt
      dump "R - %02d - 0x" res (slice (read.store m) 0 res.toNat)

/-- What the bus and the memory behind `sDataBuf` do during one command exchange. -/
structure Exchange where
  write : MraaResult
  ackRead : I2cRead ackPacketLen
  ackAfter : ℕ → UInt8
  rspRead : I2cRead dataBufMax
  rspAfter : ℕ → UInt8

/-- A response frame as the command functions get it from the parser: `pPacket` and `len`, and the
memory `pPacket` points into. -/
structure Response where
  mem : ℕ → UInt8
  pPacket : Option ℕ
  len : UInt8

/-- A call of `PN532_ReadAck`: the static variables it met and what the bus and the memory behind
`sDataBuf` did in it. -/
structure AckCall where
  driver : Driver
  read : I2cRead ackPacketLen
  after : ℕ → UInt8

/-- The value the call returned. -/
def AckCall.ret (c : AckCall) : Int8 := (readAck c.driver c.read c.after).1

/-- How far an exchange came, the static variables it leaves, the bytes it put on the bus, the calls
of `PN532_ReadAck` it made and what was printed. -/
structure ExchangeResult where
  outcome : Except UInt8 Response
  driver : Driver
  bus : Option (List UInt8)
  acks : List AckCall
  logs : List LogCall

/-- The second half of an exchange: clear the buffer, read the response, parse it and test its
TFI. -/
def receive (s : Driver) (env : Exchange) : Except UInt8 Response × Driver :=
  -- memset(sDataBuf, 0, sizeof(sDataBuf))
  let cleaned := overlay dataBufMax (fun _ => 0) s.mem
  let rsp := readRsp (some cleaned) env.rspRead
  let mem := rsp.2.getD cleaned
  if rsp.1 ≤ 0 then
    (.error err, { s with mem := mem })
  else
    let view := overlay dataBufMax mem env.rspAfter
    let parsed := frameParser (some view) rsp.1.toUInt8 (some none) (some 0)
    if parsed.code ≠ tfiPn2Host then
      (.error invalidFrame, { s with mem := mem })
    else
      (.ok ⟨view, parsed.packet.join, parsed.len.getD 0⟩, { s with mem := mem })

/-- A note on the progress of an exchange, if it makes notes. -/
def note (notes : Bool) (text : String) : List LogCall := if notes then [⟨text, []⟩] else []

/-- What the second half of an exchange prints. -/
def receiveLogs (notes : Bool) (s : Driver) (env : Exchange) : List LogCall :=
  let cleaned := overlay dataBufMax (fun _ => 0) s.mem
  note notes "## ReadRsp\r\n" ++ readRspLogs (some cleaned) env.rspRead
    ++ if (readRsp (some cleaned) env.rspRead).1 ≤ 0 then []
      else note notes "## Decode RspFrame\r\n"

/-- The part the command functions share: send the command, read the ACK, receive the response.
Only `PN532_GetFirmwareVersion` makes `notes`. -/
def exchange (notes : Bool) (s : Driver) (cmd : UInt8) (pCmdData : Option (ℕ → UInt8))
    (dataLen : UInt8) (env : Exchange) : ExchangeResult :=
  let sent := sendCmd s cmd pCmdData dataLen 0 env.write
  let res := sent.code.toInt8
  let logs := note notes "## SendCmd\r\n" ++ sendCmdLogs sent env.write
  if res ≠ good.toInt8 then
    ⟨.error res.toUInt8, sent.driver, sent.bus, [], logs⟩
  else
    let acked := readAck sent.driver env.ackRead env.ackAfter
    let acks := [⟨sent.driver, env.ackRead, env.ackAfter⟩]
    let logs := logs ++ note notes "## ReadAck\r\n"
      ++ readAckLogs sent.driver env.ackRead env.ackAfter
    if acked.1 ≠ ack.toInt8 then
      ⟨.error invalidAck, acked.2, sent.bus, acks, logs⟩
    else
      let received := receive acked.2 env
      ⟨received.1, received.2, sent.bus, acks, logs ++ receiveLogs notes acked.2 env⟩

/-- `PN532_FirmwareVersion_t` -/
structure FirmwareVersion where
  ic : UInt8
  ver : UInt8
  rev : UInt8
  support : UInt8
  deriving DecidableEq

/-- `sizeof(PN532_FirmwareVersion_t)` -/
abbrev sizeofFirmwareVersion : ℕ := 4

/-- What a command function leaves behind. -/
structure CmdResult where
  code : UInt8
  pVer : OutParam FirmwareVersion
  driver : Driver
  bus : Option (List UInt8)
  acks : List AckCall
  logs : List LogCall

/-- `PN532_GetFirmwareVersion` -/
def getFirmwareVersion (s : Driver) (pVer : OutParam FirmwareVersion) (env : Exchange) :
    CmdResult :=
  let x := exchange true s cmdGetFirmwareVersion none 0 env
  let logs := ⟨"## GetFirmwareVersion\r\n", []⟩ :: x.logs
  match x.outcome with
  | .error code => ⟨code, pVer, x.driver, x.bus, x.acks, logs⟩
  | .ok r =>
    match r.pPacket with
    | none => ⟨invalidFrame, pVer, x.driver, x.bus, x.acks, logs⟩
    | some p =>
      if r.mem p ≠ cmdGetFirmwareVersion + 1 ∨ r.len.toNat ≠ sizeofFirmwareVersion + 1 then
        ⟨invalidFrame, pVer, x.driver, x.bus, x.acks, logs⟩
      else if pVer.isNone then
        ⟨invalidParam, pVer, x.driver, x.bus, x.acks, logs⟩
      else
        ⟨good, pVer.set ⟨r.mem (p + 1), r.mem (p + 2), r.mem (p + 3), r.mem (p + 4)⟩, x.driver,
          x.bus, x.acks, logs ++
            [⟨"IC : %02x\r\n", [(r.mem (p + 1)).toNat]⟩,
              ⟨"VER: %02x\r\n", [(r.mem (p + 2)).toNat]⟩,
              ⟨"REV: %02x\r\n", [(r.mem (p + 3)).toNat]⟩,
              ⟨"SUP: %02x\r\n", [(r.mem (p + 4)).toNat]⟩]⟩

/-- `cmdData` of `PN532_InListPassiveTarget`: MaxTg, BrTy. -/
def listCmdData : List UInt8 := [0x01, 0x00]

/-- `PN532_InListPassiveTarget`.  Its two parameters are read nowhere in the code. -/
def inListPassiveTarget (s : Driver) (env : Exchange) : CmdResult :=
  let x := exchange false s cmdInListPassiveTarget (some (listMem listCmdData fun _ => 0))
    (UInt8.ofNat listCmdData.length) env
  match x.outcome with
  | .error code => ⟨code, none, x.driver, x.bus, x.acks, x.logs⟩
  | .ok r =>
    match r.pPacket with
    | none => ⟨invalidFrame, none, x.driver, x.bus, x.acks, x.logs⟩
    | some p =>
      if r.mem p ≠ cmdInListPassiveTarget + 1 then
        ⟨invalidFrame, none, x.driver, x.bus, x.acks, x.logs⟩
      else
        ⟨good, none, x.driver, x.bus, x.acks,
          x.logs ++ dump "I - %02d - 0x" r.len.toNat (slice r.mem p r.len.toNat)⟩

end PN532
