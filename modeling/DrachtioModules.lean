import DrachtioModules.Machine
import DrachtioModules.AudioFork.Pipe
import DrachtioModules.AudioFork.GracefulFlush
import DrachtioModules.AudioFork.CloseProgress
import DrachtioModules.Deepgram.Transcripts
import DrachtioModules.Sessions.Disposal
import DrachtioModules.Sessions.ForkLifecycle
import DrachtioModules.Sessions.TranscribeLifecycle
import DrachtioModules.Aws.GStreamer
import DrachtioModules.Aws.Transcripts
import DrachtioModules.Azure.GStreamer
import DrachtioModules.Azure.Teardown
import DrachtioModules.Azure.Terminal
import DrachtioModules.Sessions.FinalResponses
import DrachtioModules.Ring
import DrachtioModules.Transcribe.DropOldest
import DrachtioModules.Transcribe.Prebuffer
import DrachtioModules.Aws.HandOver
import DrachtioModules.Azure.HandOver
import DrachtioModules.Transcribe.HandOver
import DrachtioModules.Aws.Flush
import DrachtioModules.AudioFork.LifeCycle
import DrachtioModules.AudioPipe.Receive
import DrachtioModules.AudioFork.Notifications
import DrachtioModules.AudioFork.CloseIntent
import DrachtioModules.Deepgram.Flush
import DrachtioModules.Google.GStreamer
import DrachtioModules.Google.WriteSide
import DrachtioModules.Pipes.Model
import DrachtioModules.Pipes.Local
import DrachtioModules.Pipes.Projection
import DrachtioModules.Pipes.Standing
import DrachtioModules.Pipes.Touch
import DrachtioModules.Pipes.Liveness
import DrachtioModules.Deepgram.FinishHandOver
import DrachtioModules.AudioFork.AudioStream
import DrachtioModules.AudioFork.TextFraming
import DrachtioModules.AudioFork.TextOrder
import DrachtioModules.Family
import DrachtioModules.Transcribe.Channel
import DrachtioModules.Aws.CapCb
import DrachtioModules.Aws.CapCbSteps
import DrachtioModules.Aws.Placement
import DrachtioModules.Aws.StopHandshake
import DrachtioModules.Aws.WorkerReturn
import DrachtioModules.Aws.UnloadGate
import DrachtioModules.Aws.RefusedUnload
import DrachtioModules.Azure.Capture
import DrachtioModules.Azure.Reaping
import DrachtioModules.Google.Capture
import DrachtioModules.Google.Reaping
import DrachtioModules.Aws.Reaping
import DrachtioModules.Google.StopIsolation
import DrachtioModules.Transcribe.ReapedOnce
import DrachtioModules.Deepgram.UriComponent
import DrachtioModules.Deepgram.Path
import DrachtioModules.Transcribe.Staging
import DrachtioModules.Transcribe.Subclasses
import DrachtioModules.AudioFork.ParseUri
import DrachtioModules.AudioPipe.AudioBuffer
import DrachtioModules.AudioPipe.Completeness
import DrachtioModules.AudioFork.Playout
import DrachtioModules.AudioFork.PlayoutDisposal
import DrachtioModules.Google.ConnectPromise
import DrachtioModules.Aws.LockOrder
import DrachtioModules.AudioFork.LockOrder
import DrachtioModules.Base64
import DrachtioModules.Cobalt.Base64
import DrachtioModules.Deepgram.EventCallback
import DrachtioModules.Deepgram.SessionInit
import DrachtioModules.AudioFork.BasicAuth
import DrachtioModules.SimpleVad
import DrachtioModules.Aws.DequeBound
import DrachtioModules.Aws.WorkerSpin
import DrachtioModules.Dialogflow.Parser
import DrachtioModules.Dialogflow.IntentMessage
import DrachtioModules.Sessions.UnloadGate
import DrachtioModules.AudioFork.PauseResume
import DrachtioModules.Transcribe.LockOrder
import DrachtioModules.Transcribe.OneCursor
import DrachtioModules.Google.LockOrder
import DrachtioModules.Azure.LockOrder
import DrachtioModules.Deepgram.LockOrder
import DrachtioModules.Google.HandOver
import DrachtioModules.AudioFork.Base64
import DrachtioModules.AudioPipe.Vendors
import DrachtioModules.AudioPipe.VendorAudio
import DrachtioModules.AudioPipe.VendorBounds
import DrachtioModules.AudioPipe.Truncation
import DrachtioModules.Inversion
import DrachtioModules.Transcribe.RemovalOrder
import DrachtioModules.Transcribe.StreamerLife
import DrachtioModules.Transcribe.ResamplerOnce
