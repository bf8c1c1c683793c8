import OnlineJudge.Common.UniqueNames
import OnlineJudge.EventLoop.Completion
import OnlineJudge.EventLoop.Wakeup
import OnlineJudge.Delivery.Answers
import OnlineJudge.Judger.Verdict
import OnlineJudge.Judger.Transfer
import OnlineJudge.Judger.Encoding
import OnlineJudge.Judger.Output
import OnlineJudge.Judger.Budget
import OnlineJudge.Store.Verdicts
import OnlineJudge.Store.Leases
import OnlineJudge.Store.ExactlyOnce
import OnlineJudge.Messaging.Publisher
import OnlineJudge.Messaging.Conservation
import OnlineJudge.Callback.Replay
import OnlineJudge.Pipeline.Conclusion
import OnlineJudge.Runtime.Answers
import OnlineJudge.Database.PoolAccounting
import OnlineJudge.Accounts.Sessions
import OnlineJudge.Accounts.Lockout
import OnlineJudge.Accounts.DeletedAccounts
import OnlineJudge.Accounts.Cookies
import OnlineJudge.Questions.DetailCoherence
import OnlineJudge.Questions.ListCoherence
import OnlineJudge.Submissions.HiddenTests
import OnlineJudge.Submissions.CustomTasks
import OnlineJudge.Questions.ListKeys
import OnlineJudge.Questions.Pagination
import OnlineJudge.Discussions.Forest
import OnlineJudge.Discussions.Counters
import OnlineJudge.Admin.TestIds
import OnlineJudge.Admin.SuperAdmin
import OnlineJudge.Gateway.Handover
import OnlineJudge.Gateway.Decimals
import OnlineJudge.Admin.Diagnostics
import OnlineJudge.Admin.AuditWorker
import OnlineJudge.Metrics.Window
import OnlineJudge.Discussions.CommentCache
import OnlineJudge.Pages.ScriptSafeJson
