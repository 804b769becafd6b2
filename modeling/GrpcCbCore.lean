import GrpcCbCore.Server.WriterDelivery
import GrpcCbCore.Server.WriterFailure
import GrpcCbCore.Client.WriterClosing
import GrpcCbCore.Client.ReaderWriterDelivery
import GrpcCbCore.Client.ReaderWriterDestroy
import GrpcCbCore.Client.ReaderWriterFlags
import GrpcCbCore.Client.SyncWriteFailures
import GrpcCbCore.Client.SyncReaderWriterProtocol
import GrpcCbCore.Client.SyncWriterClose
import GrpcCbCore.Client.ReaderWriterOnce
import GrpcCbCore.Client.ReaderWriterErrors
import GrpcCbCore.Client.ReaderWriterVerdict
import GrpcCbCore.Client.ReaderWriterInit
import GrpcCbCore.Client.ReaderContract
import GrpcCbCore.Client.ReaderAgreement
import GrpcCbCore.Client.NullResponse
import GrpcCbCore.Server.ReaderTrace
import GrpcCbCore.Server.Outcomes
import GrpcCbCore.Server.ServingShutdown
import GrpcCbCore.Server.ServingMethods
import GrpcCbCore.Server.ServingRepeats
import GrpcCbCore.Server.WriterReturns
import GrpcCbCore.Server.WriterStops
import GrpcCbCore.Server.WriterBackPressure
import GrpcCbCore.System.ClientStreaming
import GrpcCbCore.Client.WriterProgress
import GrpcCbCore.Client.ReaderCompletions
import GrpcCbCore.Client.WriterWrapper
import GrpcCbCore.System.ClientProgress
import GrpcCbCore.System.ServerStreaming
import GrpcCbCore.Client.StubRun
import GrpcCbCore.Client.ReaderWriterHears
import GrpcCbCore.System.BidiProgress
import GrpcCbCore.System.BidiStreaming
import GrpcCbCore.System.ServerProgress
import GrpcCbCore.System.Unary
import GrpcCbCore.Server.ServingRouting
import GrpcCbCore.Server.WriterProgress
import GrpcCbCore.Client.WriterAgreement
import GrpcCbCore.System.Rpc
