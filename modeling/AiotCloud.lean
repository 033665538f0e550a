import AiotCloud.Lib.Cells
import AiotCloud.Lib.Interleave
import AiotCloud.DownlinkTopics
import AiotCloud.OtaIdentity
import AiotCloud.OtaRace
import AiotCloud.GatewayTopics
import AiotCloud.UplinkRouting
import AiotCloud.AssetNodes
import AiotCloud.Lifecycle
import AiotCloud.ColumnWriters
import AiotCloud.Lib.ReadModifyWrite
import AiotCloud.Decommission
import AiotCloud.ConfigEdits
import AiotCloud.MessageOrder
import AiotCloud.ApiClient
import AiotCloud.TemplateKeys
import AiotCloud.WarningGates
import AiotCloud.ConfigVersion
import AiotCloud.InFlightLookups
import AiotCloud.FeedConfinement
import AiotCloud.OwnerAccess
import AiotCloud.RequestGuard
import AiotCloud.LoginNames
import AiotCloud.Lib.Tally
import AiotCloud.StatusWriters
import AiotCloud.OfflineSweep
import AiotCloud.StatusEvents
import AiotCloud.UnclaimedDevices
import AiotCloud.Ingress
import AiotCloud.DashboardSnapshot
import AiotCloud.Lib.TextItems
import AiotCloud.Lib.JsNumber
import AiotCloud.ConfigForm
import AiotCloud.SavedForm
import AiotCloud.UntouchedForm
import AiotCloud.ChannelTopics
import AiotCloud.Factories
import AiotCloud.Notifications
import AiotCloud.WebPushTokens
import AiotCloud.WebPushRace
import AiotCloud.Lib.JsArithmetic
import AiotCloud.QueryBounds
import AiotCloud.Lib.Paging
import AiotCloud.Listings
import AiotCloud.AssetHealth
import AiotCloud.ConsumerLifecycle
import AiotCloud.DashboardButtons
import AiotCloud.TopicShapes
import AiotCloud.LifecycleScore
import AiotCloud.WarningCounts
import AiotCloud.AssetPool
import AiotCloud.StatusBookkeeping
import AiotCloud.OtaColumns
import AiotCloud.Lib.Timeline
import AiotCloud.ChartHistory
import AiotCloud.AlertRules
import AiotCloud.Lib.Regex
import AiotCloud.Lib.JsonSyntax
import AiotCloud.ResponseText
import AiotCloud.TemplateEditor
import AiotCloud.Lib.Occurrences
import AiotCloud.TemplateRendering
import AiotCloud.UserUpdates
import AiotCloud.DashboardConfig
import AiotCloud.TelemetryReading
import AiotCloud.DeviceSecrets
import AiotCloud.Credentials
import AiotCloud.Passwords
import AiotCloud.EmailVerification
import AiotCloud.Lib.Noninterference
import AiotCloud.Lib.Parted
import AiotCloud.Inbox
import AiotCloud.ZaloLink
import AiotCloud.Lib.Boxes
import AiotCloud.DashboardEditor
import AiotCloud.Lib.RelyGuarantee
import AiotCloud.Firmwares
import AiotCloud.OwnedCalls
import AiotCloud.FactoryIsolation
import AiotCloud.Lib.Since
import AiotCloud.ActionPanel
import AiotCloud.Authority
import AiotCloud.Subscriptions
