import LoraFwd.CTypes
import LoraFwd.Relay.Packet
import LoraFwd.Relay.Header
import LoraFwd.Relay.Codec
import LoraFwd.Relay.RoundTrip
import LoraFwd.Relay.Wire
import LoraFwd.Hal.Defs
import LoraFwd.Hal.Radio
import LoraFwd.Hal.Aux
import LoraFwd.Hal.Rx
import LoraFwd.Hal.Api
import LoraFwd.Hal.Run
import LoraFwd.Hal.TxTiming
import LoraFwd.Gpio.Platform
import LoraFwd.Gpio.Api
import LoraFwd.Gpio.Effects
import LoraFwd.Gpio.Thread
import LoraFwd.Gpio.Run
import LoraFwd.Gpio.Lifecycle
import LoraFwd.Gpio.Races
import LoraFwd.Sx126x.Spi
import LoraFwd.Sx126x.Hal
import LoraFwd.Hal.Timeout
import LoraFwd.Fwd.Logger
import LoraFwd.Sx126x.Board
