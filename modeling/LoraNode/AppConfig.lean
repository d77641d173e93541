import LoraNode.Foundation.Bytes

/-!
# Build-time settings (`app_config.h`)

The settings are macros, so every model function takes them as a value. Radio
settings are indices into the tables of `SX1278.h`.
-/

namespace LoraNode

open LoraNode.Foundation.Bytes

structure AppConfig where
  nodeAddress : Byte
  sleepIntervalMs : BitVec 32
  txTimeoutMs : BitVec 32
  ackTimeoutMs : BitVec 32
  frequencyHz : BitVec 64
  radioPower : Byte
  radioSf : Byte
  radioBw : Byte
  radioCr : Byte
  radioCrc : Byte

def AppConfig.default : AppConfig where
  nodeAddress := 0x02
  sleepIntervalMs := 5000
  txTimeoutMs := 3000
  ackTimeoutMs := 1000
  frequencyHz := 433000000
  radioPower := 1
  radioSf := 1
  radioBw := 7
  radioCr := 0
  radioCrc := 0

end LoraNode
