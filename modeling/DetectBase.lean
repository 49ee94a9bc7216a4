import DetectBase.Foundations.Transition
import DetectBase.Foundations.BinaryFloat
import DetectBase.Foundations.SortedAssoc
import DetectBase.Foundations.Tokens
import DetectBase.Foundations.InStep
import DetectBase.Structure.Types
import DetectBase.Structure.SafeQueue
import DetectBase.Structure.SafeThread
import DetectBase.Json.Value
import DetectBase.Json.Text
import DetectBase.Logger.JsonLine
import DetectBase.SocketIO.Decode
import DetectBase.SocketIO.Encode
import DetectBase.Setting.Data
import DetectBase.Setting.Setter
import DetectBase.Setting.Manager
import DetectBase.Setting.Reset
import DetectBase.Setting.Concurrent
import DetectBase.Setting.Unsubscribe
import DetectBase.Setting.Convergence
import DetectBase.Setting.Resubscribe
import DetectBase.Worker.EventBinder
import DetectBase.Detector.Exclusion
import DetectBase.Detector.InitialSettings
import DetectBase.Detector.Pipeline
import DetectBase.Detector.Pairing
import DetectBase.Balancer.LoadBalancer
import DetectBase.Balancer.Registry
import DetectBase.Balancer.Delivery
import DetectBase.Structure.InferObject
import DetectBase.Tracker.Sort
import DetectBase.Tracker.Hungarian
import DetectBase.Tracker.Board
import DetectBase.Tracker.Optimal
import DetectBase.Tracker.Conservation
import DetectBase.Tracker.Projection
import DetectBase.Tracker.Retirement
import DetectBase.Tracker.Reporting
import DetectBase.Tracker.TrackIds
import DetectBase.Tracker.Indexing
import DetectBase.Abnormal.Geometry
import DetectBase.Abnormal.History
import DetectBase.Abnormal.Schedule
import DetectBase.Foundations.KeyedFold
import DetectBase.Abnormal.Checker
import DetectBase.Abnormal.ClassIndependence
import DetectBase.Abnormal.Track
import DetectBase.Abnormal.AreaIntrusion
import DetectBase.Abnormal.Crossing
import DetectBase.Abnormal.LineIntrusion
import DetectBase.Abnormal.Parking
import DetectBase.Abnormal.RateLimit
import DetectBase.Foundations.Reads
import DetectBase.Setting.ScheduleParsing
import DetectBase.Foundations.Assignments
import DetectBase.Setting.Camera
import DetectBase.Setting.KeyStyles
import DetectBase.Foundations.Fragments
import DetectBase.Onvif.Payloader
import DetectBase.Setting.Rejection
import DetectBase.Onvif.Receiver
import DetectBase.Structure.ReplyDispatcher
import DetectBase.Engine.Handler
import DetectBase.Engine.Answers
import DetectBase.Engine.Results
import DetectBase.Engine.Rotation
import DetectBase.Engine.Backpressure
import DetectBase.Structure.ReplyDelivery
import DetectBase.Structure.ReplyLeftovers
import DetectBase.Vision.FrameFormatting
import DetectBase.Engine.InputImage
import DetectBase.Engine.SharedImage
import DetectBase.Detector.EventThread
import DetectBase.Rtsp.Requests
import DetectBase.Rtsp.Reconnect
import DetectBase.Rtsp.Backoff
import DetectBase.Rtsp.Watchdog
import DetectBase.Grpc.Lifetime
import DetectBase.Worker.UnitUpdates
import DetectBase.Structure.QueueHistory
import DetectBase.Abnormal.TimeWindow
import DetectBase.Abnormal.Inclusion
import DetectBase.Abnormal.Regions
import DetectBase.Vision.LetterboxConversion
import DetectBase.Foundations.FloatArithmetic
import DetectBase.Structure.FloatConversion
import DetectBase.Vision.ContextUpdate
import DetectBase.Engine.Suppression
import DetectBase.Onvif.Characters
import DetectBase.Rtsp.SampleConversion
import DetectBase.Detector.FrameSize
import DetectBase.Detector.EmergencyCleanup
import DetectBase.Detector.Retention
import DetectBase.Profile.ServiceBlockProfile
import DetectBase.Json.Dump
import DetectBase.Detector.UnitThreads
import DetectBase.Foundations.Markup
import DetectBase.Detector.Metadata
import DetectBase.Detector.IoWorker
import DetectBase.Structure.Uuid
import DetectBase.Grpc.Client
import DetectBase.Profile.NetworkProfile
import DetectBase.Profile.EngineProfile
import DetectBase.Profile.EngineClient
import DetectBase.Balancer.InferenceCounter
