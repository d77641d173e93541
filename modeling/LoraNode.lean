import LoraNode.PacketRoundTrip
import LoraNode.ErrorDetection
import LoraNode.StaleAck
import LoraNode.AckDeadline
import LoraNode.AppLoop
import LoraNode.AckKept
import LoraNode.RadioSession
import LoraNode.SleepContract
import LoraNode.ResponseOutcome
import LoraNode.EncodeContract
import LoraNode.CrcRemainder
import LoraNode.ElapsedTime
import LoraNode.SensorReport
import LoraNode.TickShift
import LoraNode.Dht11LineCode
import LoraNode.RtcSynchronization
import LoraNode.CodecBounds
import LoraNode.AppLogging
import LoraNode.RadioTraffic
import LoraNode.UsartDelivery
import LoraNode.Transcript
import LoraNode.SensorTraffic
import LoraNode.NetworkAgreement
