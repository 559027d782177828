import Aeron.Util.BitUtil
import Aeron.Util.Decimal
import Aeron.Concurrent.Logbuffer.LogBufferDescriptor
import Aeron.Concurrent.AtomicBuffer
import Aeron.Concurrent.Logbuffer.FrameDescriptor
import Aeron.Driver.Subscribable
import Aeron.Driver.NetworkPublication
import Aeron.Driver.ProducerTail
import Aeron.Driver.SpyLiveness
import Aeron.Driver.SenderRun
import Aeron.Driver.DriverRun
import Aeron.Driver.SetupFrame
import Aeron.Client.ChannelUriStringBuilder
import Aeron.Client.ChannelUriBuild
import Aeron.Client.InitialPosition
import Aeron.Client.ParameterMap
import Aeron.Client.ChannelUriReadBack
import Aeron.Client.CallAlgebra
import Aeron.Client.StoredValues
