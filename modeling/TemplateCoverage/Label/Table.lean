/-!
# `TemplateCoverage.Label.Table`: Chinese labels

The Chinese labels of the events and of the actions that tags name.
-/

set_option autoImplicit false

namespace TemplateCoverage.Label

/-- The labels of events. -/
def chineseEvents : List (String × String) := [
  ("branch_protection_configuration", "分支保护配置"), ("branch_protection_rule", "分支保护规则"),
  ("check_run", "检查运行"), ("check_suite", "检查套件"), ("code_scanning_alert", "代码扫描警报"),
  ("commit_comment", "提交评论"), ("create", "创建"), ("custom_property", "自定义属性"),
  ("custom_property_values", "自定义属性值"), ("delete", "删除"), ("dependabot_alert", "Dependabot 警报"),
  ("deploy_key", "部署密钥"), ("deployment", "部署"), ("deployment_protection_rule", "部署保护规则"),
  ("deployment_review", "部署审查"), ("deployment_status", "部署状态"), ("issue_comment", "Issue 评论"),
  ("issue_dependencies", "Issue 依赖"), ("label", "标签"), ("marketplace_purchase", "市场购买"),
  ("member", "成员"), ("membership", "成员资格"), ("merge_group", "合并组"), ("meta", "元数据"),
  ("milestone", "里程碑"), ("org_block", "组织封禁"), ("organization", "组织"),
  ("personal_access_token_request", "个人访问令牌请求"), ("project", "项目"), ("project_card", "项目卡片"),
  ("project_column", "项目列"), ("projects_v2", "项目 V2"), ("projects_v2_item", "项目 V2 条目"),
  ("projects_v2_status_update", "项目 V2 状态更新"), ("public", "公开"), ("registry_package", "注册表包"),
  ("repository", "仓库"), ("repository_advisory", "仓库公告"), ("repository_dispatch", "仓库调度"),
  ("repository_import", "仓库导入"), ("repository_ruleset", "仓库规则集"),
  ("repository_vulnerability_alert", "仓库漏洞警报"), ("secret_scanning_alert", "密钥扫描警报"),
  ("secret_scanning_alert_location", "密钥扫描警报位置"), ("secret_scanning_scan", "密钥扫描"),
  ("security_advisory", "安全公告"), ("security_and_analysis", "安全与分析"), ("sponsorship", "赞助"),
  ("star", "星标"), ("status", "状态"), ("sub_issues", "子 Issue"), ("team", "团队"),
  ("team_add", "团队添加"), ("watch", "关注"), ("workflow_dispatch", "工作流调度"),
  ("workflow_job", "工作流作业")]

/-- The labels of actions. -/
def chineseActions : List (String × String) := [
  ("created", "已创建"), ("deleted", "已删除"), ("edited", "已编辑"), ("opened", "已打开"),
  ("closed", "已关闭"), ("reopened", "已重新打开"), ("locked", "已锁定"), ("unlocked", "已解锁"),
  ("completed", "已完成"), ("requested", "已请求"), ("approved", "已批准"), ("rejected", "已拒绝"),
  ("dismissed", "已驳回"), ("fixed", "已修复"), ("resolved", "已解决"), ("published", "已发布"),
  ("updated", "已更新"), ("enabled", "已启用"), ("disabled", "已禁用"), ("added", "已添加"),
  ("removed", "已移除"), ("transferred", "已转移"), ("renamed", "已重命名"), ("archived", "已归档"),
  ("unarchived", "已取消归档"), ("publicized", "已公开"), ("privatized", "已私有化"), ("pinned", "已固定"),
  ("unpinned", "已取消固定"), ("labeled", "已添加标签"), ("unlabeled", "已移除标签"), ("milestoned", "已添加里程碑"),
  ("demilestoned", "已移除里程碑"), ("assigned", "已分配"), ("unassigned", "已取消分配"),
  ("in_progress", "进行中"), ("queued", "已排队"), ("waiting", "等待中"), ("success", "成功"),
  ("failure", "失败"), ("cancelled", "已取消"), ("appeared_in_branch", "出现在分支"),
  ("closed_by_user", "被用户关闭"), ("reopened_by_user", "被用户重新打开"), ("auto_dismissed", "自动驳回"),
  ("auto_reopened", "自动重新打开"), ("reintroduced", "重新引入"), ("publicly_leaked", "公开泄露"),
  ("validated", "已验证"), ("checks_requested", "已请求检查"), ("destroyed", "已销毁"),
  ("converted", "已转换"), ("moved", "已移动"), ("reordered", "已重新排序"), ("restored", "已恢复"),
  ("answered", "已回答"), ("unanswered", "未回答"), ("blocked", "已封禁"), ("unblocked", "已解除封禁"),
  ("member_added", "成员已添加"), ("member_invited", "成员已邀请"), ("member_removed", "成员已移除"),
  ("added_to_repository", "已添加到仓库"), ("removed_from_repository", "已从仓库移除"), ("suspend", "已暂停"),
  ("unsuspend", "已恢复"), ("revoked", "已撤销"), ("new_permissions_accepted", "新权限已接受"),
  ("submitted", "已提交"), ("typed", "已分类"), ("untyped", "已取消分类"), ("blocked_by_added", "被阻止者已添加"),
  ("blocked_by_removed", "被阻止者已移除"), ("blocking_added", "阻止者已添加"),
  ("blocking_removed", "阻止者已移除"), ("parent_issue_added", "父 Issue 已添加"),
  ("parent_issue_removed", "父 Issue 已移除"), ("sub_issue_added", "子 Issue 已添加"),
  ("sub_issue_removed", "子 Issue 已移除"), ("requested_action", "已请求操作"), ("rerequested", "已重新请求"),
  ("started", "已开始"), ("withdrawn", "已撤回"), ("reported", "已报告"),
  ("pending_cancellation", "待取消"), ("pending_tier_change", "待变更等级"), ("tier_changed", "等级已变更"),
  ("changed", "已变更"), ("pending_change", "待变更"), ("pending_change_cancelled", "待变更已取消"),
  ("purchased", "已购买"), ("create", "创建"), ("dismiss", "驳回"), ("reopen", "重新打开"),
  ("resolve", "解决"), ("promote_to_enterprise", "提升至企业")]

end TemplateCoverage.Label
