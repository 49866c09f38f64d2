import Cnerium.Cancel
import Cnerium.Error
import Cnerium.Lifetime.Settle
import Cnerium.Log
import Cnerium.Net
import Cnerium.Pool
import Cnerium.Runtime
import Cnerium.Scheduler.Job
import Cnerium.Scheduler.Progress
import Cnerium.Scheduler.Refinement
import Cnerium.Task.Refinement
