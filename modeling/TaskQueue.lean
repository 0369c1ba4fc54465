import TaskQueue.Config
import TaskQueue.Session
import TaskQueue.Telemetry.Logging
import TaskQueue.Trace
import TaskQueue.Transport.Beside
import TaskQueue.Proofs.Client.Polling
import TaskQueue.Proofs.Client.Waiting
import TaskQueue.Proofs.Client.Phases
import TaskQueue.Proofs.Amqp.Keeping
import TaskQueue.Proofs.Client.Spoilt
import TaskQueue.Proofs.Json.Floats
import TaskQueue.Proofs.Json.Reading
import TaskQueue.Proofs.Json.Records
import TaskQueue.Proofs.Redis.Keeping
import TaskQueue.Proofs.Session.Beside
import TaskQueue.Proofs.Session.Steps
import TaskQueue.Proofs.Session.Submissions
import TaskQueue.Proofs.Transport.Shelves
import TaskQueue.Proofs.Amqp.Losses
import TaskQueue.Proofs.Redis.FirstReader
import TaskQueue.Proofs.Client.Reports
import TaskQueue.Proofs.Client.Restoring
import TaskQueue.Proofs.Task.RoundTrip
import TaskQueue.Proofs.Config
import TaskQueue.Proofs.Connection.Selection
import TaskQueue.Proofs.Connection.Urls
import TaskQueue.Proofs.Transport.Agreement
import TaskQueue.Proofs.Transport.Encryption
import TaskQueue.Proofs.Session.Sharing
import TaskQueue.Proofs.Session.Restored
import TaskQueue.Proofs.Redis.Publishing
import TaskQueue.Proofs.Amqp.Readers
import TaskQueue.Proofs.Transport.LifeCycle
import TaskQueue.Proofs.Transport.Isolation
import TaskQueue.Proofs.Session.Laziness
import TaskQueue.Proofs.Session.Metering
import TaskQueue.Proofs.Task.Arguments
import TaskQueue.Proofs.Task.Time
import TaskQueue.Proofs.Task.Rebuilding
import TaskQueue.Proofs.Client.Hidden
import TaskQueue.Proofs.Amqp.Publishing
import TaskQueue.Proofs.Amqp.Handles
import TaskQueue.Proofs.Amqp.Repetition
import TaskQueue.Proofs.Connection.RedisUrls
import TaskQueue.Proofs.Connection.Credentials
import TaskQueue.Proofs.Amqp.Expiry
import TaskQueue.Proofs.Task.Dates
