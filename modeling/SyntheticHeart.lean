import SyntheticHeart.Go.Map
import SyntheticHeart.Go.Filepath
import SyntheticHeart.Common.Models
import SyntheticHeart.Go.Strings
import SyntheticHeart.Common.Helpers
import SyntheticHeart.Agent.State
import SyntheticHeart.Agent.StartPlugin
import SyntheticHeart.Transition.System
import SyntheticHeart.Storage.Redis
import SyntheticHeart.Agent.Sync
import SyntheticHeart.Go.Time
import SyntheticHeart.Controller.Api
import SyntheticHeart.Controller.Sync
import SyntheticHeart.Controller.Reconcile
import SyntheticHeart.Controller.Stability
import SyntheticHeart.Agent.System
import SyntheticHeart.Agent.Cleanup
import SyntheticHeart.Go.Float
import SyntheticHeart.RestApi.Ping
import SyntheticHeart.Plugins.HttpPing
import SyntheticHeart.Common.WorkerPool
import SyntheticHeart.Plugins.PerformTest
import SyntheticHeart.Plugins.Curl
import SyntheticHeart.Agent.CustomGauges
import SyntheticHeart.Agent.Broadcaster
import SyntheticHeart.Agent.Routine
import SyntheticHeart.Agent.Prometheus
import SyntheticHeart.Agent.PluginRegistration
import SyntheticHeart.Storage.Consistency
import SyntheticHeart.Agent.ExtStorage
import SyntheticHeart.Agent.Config
import SyntheticHeart.RestApi.Handlers
import SyntheticHeart.Agent.Startup
import SyntheticHeart.Agent.RunTest
import SyntheticHeart.Agent.Triggers
import SyntheticHeart.Agent.ConfigWatch
import SyntheticHeart.Agent.SyncRefinement
